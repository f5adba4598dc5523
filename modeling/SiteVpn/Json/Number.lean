import SiteVpn.Json.Basic
import SiteVpn.Text.Binary64
import SiteVpn.Text.Decimal

/-!
# Numbers in JSON texts

A number written without fraction and exponent is an integer when it fits an
unsigned or a signed word of 64 bits; `-0` is not. All other numbers are meant
as binary64 values, and one whose value would be infinite is out of range. The
value is the product of a significand and a power of ten, both rounded to
binary64: the significand takes the digits as long as they fit 64 bits, further
digits before the point raise the exponent and further digits after it are
dropped.
-/

namespace SiteVpn.Json

/-- A number as it is written. -/
structure NumberLiteral where
  negative : Bool
  /-- The digits before the point. -/
  whole : List Char
  /-- The digits after the point. -/
  fraction : List Char
  /-- Whether the exponent is negative, and its digits. -/
  exponent : Option (Bool × List Char)

namespace NumberLiteral

/-- The literal with a small `e` and no `+`. -/
def text (l : NumberLiteral) : List Char :=
  let sign := if l.negative then ['-'] else []
  let fraction := if l.fraction.isEmpty then [] else '.' :: l.fraction
  let exponent := match l.exponent with
    | none => []
    | some (true, ds) => 'e' :: '-' :: ds
    | some (false, ds) => 'e' :: ds
  sign ++ l.whole ++ fraction ++ exponent

def digitValue (c : Char) : Nat := c.toNat - '0'.toNat

/-- The value of a list of digits. -/
def value (digits : List Char) : Nat := digits.foldl (fun n c => n * 10 + digitValue c) 0

/-- The significand of the digits before the point, and how many digits did not
fit. -/
def wholeSignificand : Nat → List Char → Nat × Nat
  | sig, [] => (sig, 0)
  | sig, c :: cs =>
    if sig * 10 + digitValue c < UInt64.size then wholeSignificand (sig * 10 + digitValue c) cs
    else (sig, cs.length + 1)

/-- The significand after the digits after the point, and how many of them fit. -/
def fractionSignificand : Nat → List Char → Nat × Nat
  | sig, [] => (sig, 0)
  | sig, c :: cs =>
    if sig * 10 + digitValue c < UInt64.size then
      let r := fractionSignificand (sig * 10 + digitValue c) cs
      (r.1, r.2 + 1)
    else (sig, 0)

/-- Whether a significand times a power of ten is a finite binary64 value. -/
def isFinite (sig : Nat) (exponent : Int) : Bool :=
  sig == 0 || exponent < 0 ||
    (exponent ≤ 308 &&
      Binary64.round sig * Binary64.round (Binary64.powerOfTen exponent.toNat) <
        Binary64.bound)

/-- Whether the number is a finite binary64 value. -/
def inRange (l : NumberLiteral) : Bool :=
  let whole := wholeSignificand 0 l.whole
  let fraction := fractionSignificand whole.1 l.fraction
  let written : Int := match l.exponent with
    | none => 0
    | some (true, ds) => -(value ds : Int)
    | some (false, ds) => value ds
  isFinite fraction.1 ((whole.2 : Int) - fraction.2 + written)

/-- The value of a number. -/
def toJson (l : NumberLiteral) : Json :=
  let n := value l.whole
  let other := if l.inRange then Json.decimal (String.ofList l.text) else .unreadable
  match l.fraction, l.exponent with
  | [], none =>
    if l.negative then if 0 < n ∧ n ≤ UInt64.size / 2 then .integer (-(n : Int)) else other
    else if n < UInt64.size then .integer n else other
  | _, _ => other

/-- The digits at the start of a text, and the rest. -/
def spanDigits (cs : List Char) : List Char × List Char := cs.span Char.isDigit

/-- The digits before the point: a zero alone, or digits that start with none. -/
def scanWhole : List Char → Option (List Char × List Char)
  | '0' :: cs => some (['0'], cs)
  | c :: cs => if c.isDigit then some (spanDigits (c :: cs)) else none
  | [] => none

/-- A point with at least one digit after it, if there is one. -/
def scanFraction : List Char → Option (List Char × List Char)
  | '.' :: cs =>
    match spanDigits cs with
    | ([], _) => none
    | r => some r
  | cs => some ([], cs)

/-- The sign and the digits of an exponent. -/
def scanExponentDigits (negative : Bool) (cs : List Char) :
    Option (Option (Bool × List Char) × List Char) :=
  match spanDigits cs with
  | ([], _) => none
  | (ds, rest) => some (some (negative, ds), rest)

/-- An exponent, if there is one. -/
def scanExponent : List Char → Option (Option (Bool × List Char) × List Char)
  | c :: cs =>
    if c = 'e' ∨ c = 'E' then
      match cs with
      | '-' :: cs => scanExponentDigits true cs
      | '+' :: cs => scanExponentDigits false cs
      | cs => scanExponentDigits false cs
    else some (none, c :: cs)
  | [] => some (none, [])

/-- The number at the start of a text, and the rest. -/
def scan (cs : List Char) : Option (NumberLiteral × List Char) := do
  let (negative, unsigned) := match cs with
    | '-' :: cs => (true, cs)
    | cs => (false, cs)
  let (whole, rest) ← scanWhole unsigned
  let (fraction, rest) ← scanFraction rest
  let (exponent, rest) ← scanExponent rest
  return (⟨negative, whole, fraction, exponent⟩, rest)

end NumberLiteral

end SiteVpn.Json
