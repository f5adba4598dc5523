/-!
# Nodes of XML documents

A document is a list of nodes of which one is an element. What is looked for in
it are elements with a local name: among all nodes in document order, or among
the children of an element. The text of a node is all the text inside it, so that
comments and instructions between two pieces of text do not show.
-/

namespace SiteVpn.Xml

inductive Node where
  /-- An element of a local name. -/
  | element (name : String) (children : List Node)
  | text (content : List Char)
  | comment (content : List Char)
  | instruction (target content : List Char)
deriving Repr, Inhabited

namespace Node

/-- Whether a node is an element with a local name. -/
def isElement (name : String) : Node → Bool
  | .element n _ => n == name
  | _ => false

/-- The nodes directly inside a node. -/
def children : Node → List Node
  | .element _ children => children
  | _ => []

mutual

/-- A node and all nodes inside it, in document order. -/
def descendants : Node → List Node
  | .element name children => .element name children :: forestDescendants children
  | n => [n]

/-- The nodes of a list with all nodes inside them, in document order. -/
def forestDescendants : List Node → List Node
  | [] => []
  | n :: ns => n.descendants ++ forestDescendants ns

end

mutual

/-- All the text inside a node. -/
def textContent : Node → List Char
  | .element _ children => forestText children
  | .text content => content
  | _ => []

/-- All the text inside a list of nodes. -/
def forestText : List Node → List Char
  | [] => []
  | n :: ns => n.textContent ++ forestText ns

end

/-- The node reached by going to the first child element of each name in turn. -/
def follow : List String → Node → Option Node
  | [], n => some n
  | name :: path, n => (n.children.find? (·.isElement name)).bind (follow path)

theorem forestDescendants_eq_flatMap (ns : List Node) :
    forestDescendants ns = ns.flatMap descendants := by
  induction ns with
  | nil => rfl
  | cons n ns ih => simp [forestDescendants, ih]

theorem forestText_eq_flatMap (ns : List Node) : forestText ns = ns.flatMap textContent := by
  induction ns with
  | nil => rfl
  | cons n ns ih => simp [forestText, ih]

end Node

/-- A document: its element and what stands before and after it. -/
structure Document where
  nodes : List Node
deriving Repr, Inhabited

namespace Document

/-- All elements of a document with a local name, in document order. -/
def elements (d : Document) (name : String) : List Node :=
  (Node.forestDescendants d.nodes).filter (·.isElement name)

end Document

end SiteVpn.Xml
