import SiteVpn.Json.Quoted
import SiteVpn.Text.Decimal

/-!
# Writing JSON texts

A value is written either without blanks or with one item or member a line,
indented by two blanks a level. Objects keep the order of their members;
`sortMembers` puts them in the order of their names.
-/

namespace SiteVpn.Json

mutual

/-- The text of a value without blanks. -/
def compact : Json → List Char
  | .null | .unreadable => "null".toList
  | .bool true => "true".toList
  | .bool false => "false".toList
  | .integer n => (Decimal.writeInt n).toList
  | .decimal literal => literal.toList
  | .string s => quote s.toList
  | .array [] => "[]".toList
  | .array (j :: js) => '[' :: (compact j ++ compactItems js)
  | .object [] => "\x7b\x7d".toList
  | .object ((name, j) :: ms) =>
    '\x7b' :: (quote name.toList ++ ':' :: (compact j ++ compactMembers ms))

/-- The items after the first one, and the end of the array. -/
def compactItems : List Json → List Char
  | [] => [']']
  | j :: js => ',' :: (compact j ++ compactItems js)

/-- The members after the first one, and the end of the object. -/
def compactMembers : List (String × Json) → List Char
  | [] => ['\x7d']
  | (name, j) :: ms => ',' :: (quote name.toList ++ ':' :: (compact j ++ compactMembers ms))

end

/-- A new line at a level of indentation. -/
def newLine (level : Nat) : List Char := '\n' :: List.replicate (2 * level) ' '

mutual

/-- The text of a value that starts at a level of indentation. -/
def pretty (level : Nat) : Json → List Char
  | .null | .unreadable => "null".toList
  | .bool true => "true".toList
  | .bool false => "false".toList
  | .integer n => (Decimal.writeInt n).toList
  | .decimal literal => literal.toList
  | .string s => quote s.toList
  | .array [] => "[]".toList
  | .array (j :: js) =>
    '[' :: (newLine (level + 1) ++ pretty (level + 1) j ++ prettyItems level js)
  | .object [] => "\x7b\x7d".toList
  | .object ((name, j) :: ms) =>
    '\x7b' :: (newLine (level + 1) ++ quote name.toList ++ ':' :: ' ' ::
      (pretty (level + 1) j ++ prettyMembers level ms))

def prettyItems (level : Nat) : List Json → List Char
  | [] => newLine level ++ [']']
  | j :: js => ',' :: (newLine (level + 1) ++ pretty (level + 1) j ++ prettyItems level js)

def prettyMembers (level : Nat) : List (String × Json) → List Char
  | [] => newLine level ++ ['\x7d']
  | (name, j) :: ms =>
    ',' :: (newLine (level + 1) ++ quote name.toList ++ ':' :: ' ' ::
      (pretty (level + 1) j ++ prettyMembers level ms))

end

/-- Members in the order of their names. -/
def sorted (members : List (String × Json)) : List (String × Json) :=
  members.mergeSort fun a b => decide (a.1 ≤ b.1)

mutual

/-- The value with the members of every object in the order of their names. -/
def sortMembers : Json → Json
  | .array items => .array (sortItems items)
  | .object members => .object (sorted (sortEach members))
  | j => j

def sortItems : List Json → List Json
  | [] => []
  | j :: js => j.sortMembers :: sortItems js

def sortEach : List (String × Json) → List (String × Json)
  | [] => []
  | (name, j) :: ms => (name, j.sortMembers) :: sortEach ms

end

end SiteVpn.Json
