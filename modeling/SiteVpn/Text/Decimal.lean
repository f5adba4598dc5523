/-!
# Unsigned decimal numerals

A numeral is one optional `+` and then one or more ASCII digits, of which any
number may be leading zeros. Reading goes from left to right and reports the
first problem it meets: a character that is no digit, or a value that has left
the range asked for. Writing gives the digits without sign or leading zeros.
-/

namespace SiteVpn.Decimal

/-- Why a text is not a numeral of the range asked for. -/
inductive NumeralError where
  | empty
  | invalidDigit
  | tooLarge
deriving DecidableEq, Repr, Inhabited

/-- The account given of a numeral that cannot be read. -/
def NumeralError.message : NumeralError → String
  | .empty => "cannot parse integer from empty string"
  | .invalidDigit => "invalid digit found in string"
  | .tooLarge => "number too large to fit in target type"

/-- The value of an ASCII digit. -/
def digitValue? (c : Char) : Option Nat :=
  if '0' ≤ c ∧ c ≤ '9' then some (c.toNat - '0'.toNat) else none

/-- Appends digits to the value `acc`, which stays below `limit`. -/
def readDigits (limit : Nat) : Nat → List Char → Except NumeralError Nat
  | acc, [] => .ok acc
  | acc, c :: cs =>
    match digitValue? c with
    | none => .error .invalidDigit
    | some d =>
      if acc * 10 + d < limit then readDigits limit (acc * 10 + d) cs
      else .error .tooLarge

/-- The value of a numeral below `limit`. A sign without digits is an invalid
digit, and so is any `-`. -/
def read (limit : Nat) : List Char → Except NumeralError Nat
  | [] => .error .empty
  | ['+'] => .error .invalidDigit
  | '+' :: c :: cs => readDigits limit 0 (c :: cs)
  | c :: cs => readDigits limit 0 (c :: cs)

/-- The digit of a value below ten. -/
def digitChar (d : Nat) : Char := Char.ofNat ('0'.toNat + d)

/-- The digits of a number, the most significant first. -/
def digits (n : Nat) : List Char :=
  if n < 10 then [digitChar n] else digits (n / 10) ++ [digitChar (n % 10)]
termination_by n
decreasing_by omega

/-- The text of a number. -/
def write (n : Nat) : String := String.ofList (digits n)

/-- The text of an integer. -/
def writeInt : Int → String
  | .ofNat n => write n
  | .negSucc n => "-" ++ write (n + 1)

@[simp] theorem toList_write (n : Nat) : (write n).toList = digits n := by
  simp [write]

end SiteVpn.Decimal
