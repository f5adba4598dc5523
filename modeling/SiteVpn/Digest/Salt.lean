import SiteVpn.Digest.Sha256

/-!
# Salted digests of pre-shared keys

A key is never kept: what is kept is the hash of its bytes followed by those of
a salt, in lower-case hexadecimal digits.
-/

namespace SiteVpn

/-- The hexadecimal digit of a value below sixteen, in lower case. -/
def hexDigit (n : Nat) : Char :=
  if n < 10 then Char.ofNat ('0'.toNat + n) else Char.ofNat ('a'.toNat + (n - 10))

/-- Two hexadecimal digits for each byte. -/
def hexDigits (bytes : List UInt8) : List Char :=
  bytes.flatMap fun b => [hexDigit (b.toNat / 16), hexDigit (b.toNat % 16)]

/-- The bytes of a text in UTF-8. -/
def utf8 (s : String) : List UInt8 := s.toUTF8.data.toList

/-- The salt that is mixed into key digests. -/
structure Salt where
  text : String
deriving DecidableEq, Repr, Inhabited

namespace Salt

/-- The salt written by the digits of a list of bytes. -/
def ofBytes (bytes : List UInt8) : Salt := ⟨String.ofList (hexDigits bytes)⟩

/-- The digest of a key under a salt. -/
def digest (salt : Salt) (key : String) : String :=
  String.ofList (hexDigits (Sha256.hash (utf8 key ++ utf8 salt.text)))

theorem length_hexDigits (bytes : List UInt8) :
    (hexDigits bytes).length = 2 * bytes.length := by
  induction bytes with
  | nil => rfl
  | cons b bs ih =>
    rw [show hexDigits (b :: bs) =
      hexDigit (b.toNat / 16) :: hexDigit (b.toNat % 16) :: hexDigits bs from rfl]
    simp only [List.length_cons, ih]
    omega

end Salt

end SiteVpn
