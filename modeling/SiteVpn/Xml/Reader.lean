import SiteVpn.Xml.Node
import SiteVpn.Xml.Token

/-!
# Reading XML documents

The tokens of a document are read with a stack of the elements that are still
open, the innermost first. Prefixes must be declared by the element itself or by
one around it, and two attributes of an element must differ in their local names
or in what their prefixes are declared to mean. Outside the one root element only
blanks, comments and instructions may stand.
-/

namespace SiteVpn.Xml

/-- The meanings of prefixes, the latest declaration first. -/
abbrev Scope := List (String × String)

/-- What the prefix `xml` always means. -/
def xmlMeaning : String := "http://www.w3.org/XML/1998/namespace"

/-- What the prefix `xmlns` always means. -/
def declarationMeaning : String := "http://www.w3.org/2000/xmlns/"

/-- The text of an attribute's value. -/
def Attribute.meaning (a : Attribute) : String := String.ofList (attributeValue a.value)

/-- The declarations of an element, given those before an attribute and those after
it. Nothing else may mean what `xml` and `xmlns` mean, and no prefix is declared
twice. -/
def declare (own : Scope) (a : Attribute) : Option Scope :=
  if a.name.space = "xmlns" then
    if a.meaning = declarationMeaning ∨ ¬(a.name.base = "xml" ↔ a.meaning = xmlMeaning) ∨
        (own.lookup a.name.base).isSome then none
    else if a.name.base = "xml" then some own
    else some ((a.name.base, a.meaning) :: own)
  else if a.name.base = "xmlns" then
    if a.meaning = xmlMeaning ∨ a.meaning = declarationMeaning then none else some own
  else some own

/-- Whether an attribute declares what a prefix, or the lack of one, means. -/
def Attribute.isDeclaration (a : Attribute) : Bool :=
  a.name.space == "xmlns" || a.name.base == "xmlns"

/-- What the prefix of an attribute means and its local name. An attribute without
prefix means none. -/
def expandedName (scope : Scope) (name : QName) : Option (Option String × String) :=
  if name.space = "xml" then some (some xmlMeaning, name.base)
  else if name.space = "" then some (none, name.base)
  else (scope.lookup name.space).map fun meaning => (some meaning, name.base)

/-- The declarations in force inside a tag that stands in a scope, if its names are
in order. -/
def tagScope (scope : Scope) (name : QName) (attributes : List Attribute) : Option Scope := do
  let own ← attributes.foldlM declare []
  let inner := own ++ scope
  let names ← (attributes.filter (!·.isDeclaration)).mapM (expandedName inner ·.name)
  if names.Nodup ∧ name.space ≠ "xmlns" ∧
      (name.space = "" ∨ (inner.lookup name.space).isSome) then some inner
  else none

/-- An element that is still open, with its nodes so far in reverse. -/
structure OpenElement where
  name : QName
  scope : Scope
  before : List Node

/-- What has been read of a document. -/
structure ReadState where
  /-- The open elements, the innermost first. -/
  stack : List OpenElement
  /-- The nodes outside the root element, in reverse, and the root where it is whole. -/
  outside : List Node
  /-- Whether the root element was met. -/
  hasRoot : Bool

namespace ReadState

/-- The state before a document. -/
def start : ReadState := ⟨[], [], false⟩

/-- Adds a whole node where reading stands. -/
def add (s : ReadState) (n : Node) : ReadState :=
  match s.stack with
  | [] => { s with outside := n :: s.outside }
  | e :: es => { s with stack := { e with before := n :: e.before } :: es }

/-- The state in an element that a tag opens. -/
def enter (s : ReadState) (name : QName) (attributes : List Attribute) :
    Option ReadState := do
  if s.stack.isEmpty ∧ s.hasRoot then none
  else
    let scope := match s.stack with
      | [] => []
      | e :: _ => e.scope
    let inner ← tagScope scope name attributes
    return { s with stack := ⟨name, inner, []⟩ :: s.stack, hasRoot := true }

/-- The state after the innermost element, which must have a name. -/
def leave (s : ReadState) (name : QName) : Option ReadState :=
  match s.stack with
  | [] => none
  | e :: es =>
    if e.name = name then
      some ({ s with stack := es }.add (.element name.base e.before.reverse))
    else none

/-- Adds text, which outside the root element is blank and not kept. -/
def addText (s : ReadState) (content : List Piece) : Option ReadState :=
  if s.stack.isEmpty then
    if content.all fun p => p.isLiteral && isSpace p.char then some s else none
  else some (s.add (.text (lineEnds content)))

/-- Reads one token. -/
def step (s : ReadState) : Token → Option ReadState
  | .openTag name attributes => s.enter name attributes
  | .emptyTag name attributes => do (← s.enter name attributes).leave name
  | .closeTag name => s.leave name
  | .text content => s.addText content
  | .cdata content =>
    if s.stack.isEmpty then none else some (s.add (.text (lineEnds (content.map .literal))))
  | .comment content => some (s.add (.comment content))
  | .instruction target content => some (s.add (.instruction target content))

end ReadState

namespace Document

/-- The document of a list of tokens. -/
def ofTokens (tokens : List Token) : Option Document := do
  let s ← tokens.foldlM ReadState.step .start
  if s.stack.isEmpty ∧ s.hasRoot then some ⟨s.outside.reverse⟩ else none

/-- Reads a document. -/
def read (text : List Char) : Option Document := do
  ofTokens (← Token.ofText text)

end Document

end SiteVpn.Xml
