import SiteVpn.Json.Basic
import SiteVpn.NameMap

/-!
# The JSON form of values

A type with a JSON form is written as one value and read from any value that
has its shape. A record is written as an object. It is read from an object, in
which unknown names are ignored and known ones may not be repeated, or from the
array of its fields in order, which may end early before fields that have a
default. A value of an enumeration is written as its name, and read also from an
object whose only member has that name and no content.
-/

namespace SiteVpn

/-- A type whose values are written and read as JSON. -/
class JsonForm (α : Type) where
  toJson : α → Json
  ofJson? : Json → Option α

export JsonForm (toJson ofJson?)

namespace Json

/-- A field of a record. -/
structure Field where
  name : String
  /-- Whether the array of the record's fields may end before this one. -/
  mayEnd : Bool

/-- A field that must be present in the array of the fields. -/
def Field.fixed (name : String) : Field := ⟨name, false⟩

/-- A field with a default. -/
def Field.defaulted (name : String) : Field := ⟨name, true⟩

/-- The fields of a record by name, from an array of them. -/
def positional : List Field → List Json → Option (List (String × Json))
  | [], [] => some []
  | [], _ :: _ => none
  | f :: fs, [] => if f.mayEnd then positional fs [] else none
  | f :: fs, j :: js => (positional fs js).map ((f.name, j) :: ·)

/-- The members of an object whose names are known, unless one is repeated. -/
def known (names : List String) : List (String × Json) → Option (List (String × Json))
  | [] => some []
  | m :: ms =>
    if names.contains m.1 then
      if ms.any (·.1 == m.1) then none else (known names ms).map (m :: ·)
    else known names ms

/-- The given fields of a record by name. -/
def record? (fields : List Field) : Json → Option (List (String × Json))
  | .object members => known (fields.map (·.name)) members
  | .array items => positional fields items
  | _ => none

/-- The value of a field, or a default where the field is not given. -/
def orDefault {α : Type} [JsonForm α] (given : List (String × Json)) (name : String)
    (default : α) : Option α :=
  match given.lookup name with
  | none => some default
  | some j => ofJson? j

/-- The value of a field that must be given. -/
def required {α : Type} [JsonForm α] (given : List (String × Json)) (name : String) :
    Option α :=
  given.lookup name >>= ofJson?

/-- The values of a list of values, if each has the shape. -/
def list? {α : Type} [JsonForm α] : List Json → Option (List α)
  | [] => some []
  | j :: js => do
    let a ← ofJson? j
    let as ← list? js
    return a :: as

/-- The values of a list of members, if each has the shape. -/
def entries? {α : Type} [JsonForm α] : List (String × Json) → Option (List (String × α))
  | [] => some []
  | (name, j) :: ms => do
    let a ← ofJson? j
    let as ← entries? ms
    return (name, a) :: as

/-- A natural number below a limit. -/
def below? (limit : Nat) : Json → Option Nat
  | .integer (.ofNat n) => if n < limit then some n else none
  | _ => none

/-- The name in the form of an enumeration's value. -/
def variant? : Json → Option String
  | .string s => some s
  | .object [(name, .null)] => some name
  | _ => none

end Json

instance : JsonForm Bool where
  toJson := .bool
  ofJson?
    | .bool b => some b
    | _ => none

instance : JsonForm String where
  toJson := .string
  ofJson?
    | .string s => some s
    | _ => none

instance : JsonForm UInt8 where
  toJson n := .integer n.toNat
  ofJson? j := (j.below? UInt8.size).map UInt8.ofNat

instance : JsonForm UInt32 where
  toJson n := .integer n.toNat
  ofJson? j := (j.below? UInt32.size).map UInt32.ofNat

/-- A missing value is null. -/
instance {α : Type} [JsonForm α] : JsonForm (Option α) where
  toJson
    | none => .null
    | some a => toJson a
  ofJson?
    | .null => some none
    | j => (ofJson? j).map some

instance {α : Type} [JsonForm α] : JsonForm (List α) where
  toJson as := .array (as.map toJson)
  ofJson?
    | .array items => Json.list? items
    | _ => none

/-- A map is an object, of whose repeated names the last one counts. -/
instance {α : Type} [JsonForm α] : JsonForm (NameMap α) where
  toJson m := .object (m.entries.map fun e => (e.1, toJson e.2))
  ofJson?
    | .object members => (Json.entries? members).map NameMap.ofList
    | _ => none

/-- An enumeration whose values have names. -/
class Named (α : Type) where
  all : List α
  name : α → String

/-- The value of a name. -/
def Named.ofName? (α : Type) [Named α] (s : String) : Option α :=
  (all : List α).find? (name · == s)

instance {α : Type} [Named α] : JsonForm α where
  toJson a := .string (Named.name a)
  ofJson? j := j.variant?.bind (Named.ofName? α)

end SiteVpn
