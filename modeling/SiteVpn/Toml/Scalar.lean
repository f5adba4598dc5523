import SiteVpn.Text.Binary64
import SiteVpn.Text.Blank
import SiteVpn.Toml.Basic
import SiteVpn.Toml.Moment

/-!
# Scalars that are not strings

Truth values, numbers and moments are written without quotes. Single underscores
may stand between two digits. A decimal number has no leading zeros. Integers fit
128 bits, and other numbers are finite binary64 values unless they are written as
infinite.
-/

namespace SiteVpn.Toml

/-- The digits of a base in a text, without the underscores between them. -/
def digitsOf? (base : Nat) (cs : List Char) : Option (List Char) :=
  let groups := Text.fields '_' cs
  if groups.all fun g => !g.isEmpty && g.all fun c => (Text.digitIn? base c).isSome then
    some groups.flatten
  else none

/-- Decimal digits without leading zeros. -/
def wholeDigits? (cs : List Char) : Option (List Char) :=
  match digitsOf? 10 cs with
  | some ('0' :: _ :: _) => none
  | r => r

/-- A text without a sign, and whether the sign is a minus. -/
def splitSign : List Char → Bool × List Char
  | '-' :: cs => (true, cs)
  | '+' :: cs => (false, cs)
  | cs => (false, cs)

/-- The least signed integer of 128 bits. -/
def leastInteger : Int := -0x80000000000000000000000000000000

/-- The greatest unsigned integer of 128 bits. -/
def greatestInteger : Int := 0xFFFFFFFFFFFFFFFFFFFFFFFFFFFFFFFF

/-- An integer that fits 128 bits. -/
def integer? (n : Int) : Option Toml :=
  if leastInteger ≤ n ∧ n ≤ greatestInteger then some (.integer n) else none

/-- A number with a sign before it. -/
def signed (negative : Bool) (n : Nat) : Int := if negative then -(n : Int) else n

/-- Whether a number with so many digits and an exponent of ten is a finite binary64
value. -/
def isFinite (digits : List Char) (exponent : Int) : Bool :=
  let digits := digits.dropWhile (· == '0')
  let n := (Text.valueIn? 10 digits).getD 0
  let places : Int := digits.length + exponent
  if n = 0 ∨ places < 300 then true
  else if 310 < places then false
  else if 0 ≤ exponent then n * Binary64.powerOfTen exponent.toNat < Binary64.bound
  else n < Binary64.bound * Binary64.powerOfTen (-exponent).toNat

/-- The exponent of a number, zero where there is none. -/
def exponent? : Option (List Char) → Option Int
  | none => some 0
  | some cs => do
    let (negative, cs) := splitSign cs
    return signed negative (← Text.valueIn? 10 (← digitsOf? 10 cs))

/-- The digits after the point, none where there is no point. -/
def fraction? : Option (List Char) → Option (List Char)
  | none => some []
  | some cs => digitsOf? 10 cs

/-- The parts of a text before and after the first occurrence of a separator, of which
the second is missing without it. -/
def splitOptional (sep : Char) (cs : List Char) : List Char × Option (List Char) :=
  match Text.splitAtFirst sep cs with
  | none => (cs, none)
  | some (before, after) => (before, some after)

/-- A number without its sign. -/
def number? (negative : Bool) (cs : List Char) : Option Toml := do
  let small := cs.map fun c => if c = 'E' then 'e' else c
  let (mantissa, written) := splitOptional 'e' small
  let (whole, fraction) := splitOptional '.' mantissa
  let digits ← wholeDigits? whole
  if written.isNone ∧ fraction.isNone then
    integer? (signed negative (← Text.valueIn? 10 digits))
  else
    let places ← fraction? fraction
    let exponent ← exponent? written
    if isFinite (digits ++ places) (exponent - places.length) then
      return .decimal (String.ofList cs)
    else none

/-- An integer of a base other than ten after its mark. -/
def based? (base : Nat) (cs : List Char) : Option Toml := do
  let digits ← digitsOf? base cs
  integer? (← Text.valueIn? base digits)

/-- Whether a text goes on as a moment does after the digits at its start. -/
def startsMoment (cs : List Char) : Bool :=
  match cs.dropWhile Char.isDigit with
  | '-' :: _ => cs.head?.any Char.isDigit
  | ':' :: _ => cs.head?.any Char.isDigit
  | _ => false

/-- The value of a text without quotes. -/
def scalar? (cs : List Char) : Option Toml :=
  match cs with
  | '0' :: 'x' :: cs => based? 16 cs
  | '0' :: 'o' :: cs => based? 8 cs
  | '0' :: 'b' :: cs => based? 2 cs
  | cs =>
    if cs = "true".toList then some (.boolean true)
    else if cs = "false".toList then some (.boolean false)
    else if startsMoment cs then
      if isMoment cs then some (.moment (String.ofList cs)) else none
    else
      let (negative, rest) := splitSign cs
      if rest = "inf".toList ∨ rest = "nan".toList then some (.decimal (String.ofList cs))
      else number? negative rest

end SiteVpn.Toml
