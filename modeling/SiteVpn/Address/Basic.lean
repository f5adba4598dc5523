import SiteVpn.Text.Blank
import SiteVpn.Text.Decimal

/-!
# IPv4 addresses

An address is four octets. Read as a big-endian number it is a 32-bit word, and
the order of addresses is the order of their octets from the left. The written
form is four numerals between dots. A reader looks at every field before it
counts them, so a bad numeral is reported before a wrong number of fields.
-/

namespace SiteVpn

/-- An IPv4 address, its octets from the most significant. -/
structure Address where
  a : UInt8
  b : UInt8
  c : UInt8
  d : UInt8
deriving DecidableEq, Repr, Inhabited

namespace Address

/-- The address as a big-endian word. -/
def toWord (x : Address) : UInt32 :=
  x.a.toUInt32 * 0x1000000 + x.b.toUInt32 * 0x10000 + x.c.toUInt32 * 0x100 + x.d.toUInt32

/-- The address of a big-endian word. -/
def ofWord (w : UInt32) : Address :=
  ⟨(w >>> 24).toUInt8, (w >>> 16).toUInt8, (w >>> 8).toUInt8, w.toUInt8⟩

/-- Addresses are compared octet by octet from the left. -/
instance : Ord Address where
  compare x y :=
    (compare x.a y.a).then <| (compare x.b y.b).then <| (compare x.c y.c).then <|
      compare x.d y.d

/-- The four octets as decimal numerals between dots. -/
def text (x : Address) : String :=
  Decimal.write x.a.toNat ++ "." ++ Decimal.write x.b.toNat ++ "." ++
    Decimal.write x.c.toNat ++ "." ++ Decimal.write x.d.toNat

instance : ToString Address := ⟨text⟩

/-- The form of an address in diagnostic output. -/
def debugText (x : Address) : String := "Ipv4Addr \x7b inner: " ++ x.text ++ " \x7d"

/-- Why a text is not an address. -/
inductive ReadError where
  /-- The leftmost bad field. -/
  | field (cause : Decimal.NumeralError)
  /-- All fields are octets, but there are not four of them. -/
  | fieldCount (text : String)
deriving DecidableEq, Repr

/-- The account given of a text that is not an address. -/
def ReadError.message : ReadError → String
  | .field cause => cause.message
  | .fieldCount text => "malformed ip: " ++ text

/-- The octets of the fields of a text, or the leftmost bad field. -/
def octets : List (List Char) → Except Decimal.NumeralError (List UInt8)
  | [] => .ok []
  | f :: fs => do
    let n ← Decimal.read 256 f
    let ns ← octets fs
    return UInt8.ofNat n :: ns

/-- Reads the written form of an address. -/
def read (text : List Char) : Except ReadError Address :=
  match octets (Text.fields '.' text) with
  | .error e => .error (.field e)
  | .ok [a, b, c, d] => .ok ⟨a, b, c, d⟩
  | .ok _ => .error (.fieldCount (String.ofList text))

theorem toNat_toWord (x : Address) :
    x.toWord.toNat =
      x.a.toNat * 0x1000000 + x.b.toNat * 0x10000 + x.c.toNat * 0x100 + x.d.toNat := by
  have ha := x.a.toNat_lt
  have hb := x.b.toNat_lt
  have hc := x.c.toNat_lt
  have hd := x.d.toNat_lt
  simp only [toWord, UInt32.toNat_add, UInt32.toNat_mul, UInt8.toNat_toUInt32,
    UInt32.toNat_ofNat]
  simp only [Nat.reduceMod, Nat.reducePow] at *
  omega

@[simp] theorem toWord_ofWord (w : UInt32) : (ofWord w).toWord = w := by
  apply UInt32.toNat_inj.mp
  have hw := w.toNat_lt
  rw [toNat_toWord]
  simp only [ofWord, UInt32.toNat_toUInt8, UInt32.toNat_shiftRight, UInt32.toNat_ofNat,
    Nat.shiftRight_eq_div_pow]
  simp only [Nat.reduceMod, Nat.reducePow] at *
  omega

@[simp] theorem ofWord_toWord (x : Address) : ofWord x.toWord = x := by
  have ha := x.a.toNat_lt
  have hb := x.b.toNat_lt
  have hc := x.c.toNat_lt
  have hd := x.d.toNat_lt
  have h := toNat_toWord x
  cases x with
  | mk a b c d =>
    simp only [ofWord, mk.injEq]
    refine ⟨?_, ?_, ?_, ?_⟩ <;> apply UInt8.toNat_inj.mp <;>
      simp only [UInt32.toNat_toUInt8, UInt32.toNat_shiftRight, UInt32.toNat_ofNat,
        Nat.shiftRight_eq_div_pow, h] <;>
      simp only [Nat.reduceMod, Nat.reducePow] at * <;> omega

end Address

end SiteVpn
