/-!
# JSON values

A value keeps the members of an object in the order in which they were written,
repeated names included. Some texts have the syntax of a value and yet no
content: a string that names half of a surrogate pair, a number out of range, an
object with such a string as a name. They are read as `unreadable`, which a
reader can pass over where it ignores a value and which has no other use.
-/

namespace SiteVpn

inductive Json where
  | null
  | bool (b : Bool)
  /-- A number written without fraction and exponent. -/
  | integer (n : Int)
  /-- Any other number, as text. -/
  | decimal (literal : String)
  | string (s : String)
  | array (items : List Json)
  | object (members : List (String × Json))
  | unreadable
deriving Inhabited, Repr

namespace Json

mutual

/-- Whether two values are the same. -/
def isSame : Json → Json → Bool
  | .null, .null => true
  | .bool b, .bool b' => b == b'
  | .integer n, .integer n' => n == n'
  | .decimal literal, .decimal literal' => literal == literal'
  | .string s, .string s' => s == s'
  | .array items, .array items' => itemsSame items items'
  | .object members, .object members' => membersSame members members'
  | .unreadable, .unreadable => true
  | _, _ => false

def itemsSame : List Json → List Json → Bool
  | [], [] => true
  | j :: js, j' :: js' => j.isSame j' && itemsSame js js'
  | _, _ => false

def membersSame : List (String × Json) → List (String × Json) → Bool
  | [], [] => true
  | (name, j) :: ms, (name', j') :: ms' => name == name' && j.isSame j' && membersSame ms ms'
  | _, _ => false

end

mutual

theorem isSame_iff : ∀ j j' : Json, j.isSame j' ↔ j = j'
  | .null, j' => by cases j' <;> simp [isSame]
  | .bool _, j' => by cases j' <;> simp [isSame]
  | .integer _, j' => by cases j' <;> simp [isSame]
  | .decimal _, j' => by cases j' <;> simp [isSame]
  | .string _, j' => by cases j' <;> simp [isSame]
  | .array js, j' => by cases j' <;> simp [isSame, itemsSame_iff js]
  | .object ms, j' => by cases j' <;> simp [isSame, membersSame_iff ms]
  | .unreadable, j' => by cases j' <;> simp [isSame]

theorem itemsSame_iff : ∀ js js' : List Json, itemsSame js js' ↔ js = js'
  | [], js' => by cases js' <;> simp [itemsSame]
  | j :: js, js' => by cases js' <;> simp [itemsSame, isSame_iff j, itemsSame_iff js]

theorem membersSame_iff : ∀ ms ms' : List (String × Json), membersSame ms ms' ↔ ms = ms'
  | [], ms' => by cases ms' <;> simp [membersSame]
  | (_, j) :: ms, ms' => by
      cases ms' <;> simp [membersSame, isSame_iff j, membersSame_iff ms, Prod.ext_iff]

end

instance : DecidableEq Json := fun j j' => decidable_of_iff _ (isSame_iff j j')

/-- The members of which no later one has the same name. -/
def keepLast {α : Type} : List (String × α) → List (String × α)
  | [] => []
  | m :: ms => if ms.any (·.1 == m.1) then keepLast ms else m :: keepLast ms

mutual

/-- The number of arrays and objects around the innermost value. -/
def depth : Json → Nat
  | .array items => depthItems items + 1
  | .object members => depthMembers members + 1
  | _ => 0

def depthItems : List Json → Nat
  | [] => 0
  | j :: js => max j.depth (depthItems js)

def depthMembers : List (String × Json) → Nat
  | [] => 0
  | (_, j) :: ms => max j.depth (depthMembers ms)

end

mutual

/-- Whether every value inside has content. -/
def isReadable : Json → Bool
  | .array items => itemsReadable items
  | .object members => membersReadable members
  | .unreadable => false
  | _ => true

def itemsReadable : List Json → Bool
  | [] => true
  | j :: js => j.isReadable && itemsReadable js

def membersReadable : List (String × Json) → Bool
  | [] => true
  | (_, j) :: ms => j.isReadable && membersReadable ms

end

mutual

/-- The value in which the last of repeated names is kept, at every level. -/
def settle : Json → Json
  | .array items => .array (settleItems items)
  | .object members => .object (keepLast (settleMembers members))
  | j => j

def settleItems : List Json → List Json
  | [] => []
  | j :: js => j.settle :: settleItems js

def settleMembers : List (String × Json) → List (String × Json)
  | [] => []
  | (name, j) :: ms => (name, j.settle) :: settleMembers ms

end

theorem settleItems_eq_map (items : List Json) : settleItems items = items.map settle := by
  induction items with
  | nil => rfl
  | cons j js ih => simp [settleItems, ih]

theorem settleMembers_eq_map (members : List (String × Json)) :
    settleMembers members = members.map fun m => (m.1, m.2.settle) := by
  induction members with
  | nil => rfl
  | cons m ms ih => simp [settleMembers, ih]

end Json

end SiteVpn
