import SiteVpn.Text.Radix

/-!
# Dates and times

A moment is a date, a time of day, or both with a `T` or a blank between them, and
then possibly an offset. Its fields must be in the ranges of the calendar; a
sixtieth second is allowed. The seconds of a time may be left out.
-/

namespace SiteVpn.Toml

/-- A number of so many decimal digits at the start of a text, and the rest. -/
def scanFixed (count : Nat) (cs : List Char) : Option (Nat × List Char) :=
  if (cs.take count).length = count then
    (Text.valueIn? 10 (cs.take count)).map fun n => (n, cs.drop count)
  else none

/-- The text after a character. -/
def skipChar (c : Char) : List Char → Option (List Char)
  | d :: cs => if c = d then some cs else none
  | [] => none

def isLeapYear (year : Nat) : Bool :=
  year % 4 == 0 && (year % 100 != 0 || year % 400 == 0)

/-- The number of days of a month. -/
def daysIn (year month : Nat) : Nat :=
  if month = 2 then if isLeapYear year then 29 else 28
  else if month ∈ [4, 6, 9, 11] then 30
  else 31

/-- The text after the date at its start. -/
def skipDate (cs : List Char) : Option (List Char) := do
  let (year, cs) ← scanFixed 4 cs
  let (month, cs) ← scanFixed 2 (← skipChar '-' cs)
  let (day, cs) ← scanFixed 2 (← skipChar '-' cs)
  if 1 ≤ month ∧ month ≤ 12 ∧ 1 ≤ day ∧ day ≤ daysIn year month then some cs else none

/-- The text after hours and minutes. -/
def skipMinutes (cs : List Char) : Option (List Char) := do
  let (hour, cs) ← scanFixed 2 cs
  let (minute, cs) ← scanFixed 2 (← skipChar ':' cs)
  if hour ≤ 23 ∧ minute ≤ 59 then some cs else none

/-- The text after a fraction of a second, if there is one. -/
def skipFraction : List Char → Option (List Char)
  | '.' :: d :: cs => if d.isDigit then some (cs.dropWhile Char.isDigit) else none
  | '.' :: [] => none
  | cs => some cs

/-- The text after the time of day at its start. -/
def skipTime (cs : List Char) : Option (List Char) := do
  let cs ← skipMinutes cs
  match cs with
  | ':' :: cs =>
    let (second, cs) ← scanFixed 2 cs
    if second ≤ 60 then skipFraction cs else none
  | cs => some cs

/-- The text after an offset, if there is one. -/
def skipOffset : List Char → Option (List Char)
  | c :: cs =>
    if c = 'Z' ∨ c = 'z' then some cs
    else if c = '+' ∨ c = '-' then skipMinutes cs
    else some (c :: cs)
  | [] => some []

/-- Whether a text is a date. -/
def isDate (cs : List Char) : Bool := skipDate cs == some []

/-- Whether a text is a moment. -/
def isMoment (cs : List Char) : Bool :=
  match skipDate cs with
  | none => skipTime cs == some []
  | some [] => true
  | some (c :: rest) =>
    (c == 'T' || c == 't' || c == ' ') && (skipTime rest >>= skipOffset) == some []

end SiteVpn.Toml
