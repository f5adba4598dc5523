import SiteVpn.Json.Token

/-!
# Reading JSON texts

The tokens of a text drive a machine whose stack holds the arrays and objects
that are still open. There are two readings. `read` takes any text of the right
syntax; it is for readers that know the names they look for and ignore the rest.
`readDocument` takes a text as a document of its own: everything in it must have
content, at most 127 arrays and objects may be nested, and of members with the
same name the last one counts.
-/

namespace SiteVpn.Json

/-- An array or object that is still open, with what it holds so far in reverse. -/
inductive Frame where
  | items (before : List Json)
  | members (before : List (Option String × Json))
  /-- An object in which a value is due for a name. -/
  | member (before : List (Option String × Json)) (name : Option String)

/-- What is due. -/
inductive Due where
  | value
  | itemOrClose
  | nameOrClose
  | name
  | colon
  /-- Nothing more for this value. -/
  | none (value : Json)

/-- The object of a list of members in reverse. -/
def objectOf (before : List (Option String × Json)) : Json :=
  let members := before.reverse
  if members.all (·.1.isSome) then .object (members.map fun m => (m.1.getD "", m.2))
  else .unreadable

/-- The start of a value. -/
def startValue (stack : List Frame) : Token → Option (Due × List Frame)
  | .scalar v => some (.none v, stack)
  | .string (some s) => some (.none (.string s), stack)
  | .string none => some (.none .unreadable, stack)
  | .openArray => some (.itemOrClose, .items [] :: stack)
  | .openObject => some (.nameOrClose, .members [] :: stack)
  | _ => none

/-- The token after a whole value. -/
def afterValue (v : Json) : List Frame → Token → Option (Due × List Frame)
  | .items before :: stack, .comma => some (.value, .items (v :: before) :: stack)
  | .items before :: stack, .closeArray => some (.none (.array (v :: before).reverse), stack)
  | .member before name :: stack, .comma =>
    some (.name, .members ((name, v) :: before) :: stack)
  | .member before name :: stack, .closeObject =>
    some (.none (objectOf ((name, v) :: before)), stack)
  | _, _ => none

/-- One token of a text. -/
def step : Due × List Frame → Token → Option (Due × List Frame)
  | (.value, stack), t => startValue stack t
  | (.itemOrClose, .items before :: stack), .closeArray =>
    some (.none (.array before.reverse), stack)
  | (.itemOrClose, stack), t => startValue stack t
  | (.nameOrClose, .members before :: stack), .closeObject =>
    some (.none (objectOf before), stack)
  | (.nameOrClose, .members before :: stack), .string name =>
    some (.colon, .member before name :: stack)
  | (.name, .members before :: stack), .string name =>
    some (.colon, .member before name :: stack)
  | (.colon, stack), .colon => some (.value, stack)
  | (.none v, stack), t => afterValue v stack t
  | _, _ => none

/-- The value of a sequence of tokens. -/
def ofTokens (tokens : List Token) : Option Json :=
  match tokens.foldlM step (.value, []) with
  | some (.none v, []) => some v
  | _ => none

/-- The value of a text of the right syntax. -/
def read (text : List Char) : Option Json := do
  ofTokens (← Token.ofText text)

/-- The value of a text that is a document of its own. -/
def readDocument (text : List Char) : Option Json :=
  match read text with
  | some j => if j.isReadable ∧ j.depth ≤ 127 then some j.settle else none
  | none => none

end SiteVpn.Json
