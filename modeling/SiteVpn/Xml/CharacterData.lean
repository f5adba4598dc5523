import SiteVpn.Text.Blank
import SiteVpn.Text.Radix
import SiteVpn.Xml.Name

/-!
# Character data

Text is a sequence of characters, each written as itself or as a reference. The
only entities are the five predefined ones. A reference by number to a value that
is no character stands for the replacement character, and one to a character that
documents may not hold is an error.

Line ends become line feeds. A character that a reference stands for is kept as it
is, and the character right after the reference is kept with it. A carriage return
turns into a line feed when a character that is not kept follows, or when it is not
kept itself and ends the text, and a line feed that is not kept is dropped after it.
-/

namespace SiteVpn.Xml

/-- A character and how it is written. -/
inductive Piece where
  | literal (c : Char)
  | reference (c : Char)
deriving DecidableEq, Repr

namespace Piece

/-- The character. -/
def char : Piece → Char
  | .literal c => c
  | .reference c => c

def isLiteral : Piece → Bool
  | .literal _ => true
  | .reference _ => false

end Piece

/-- The character of a number below 2³². -/
def numbered? (n : Nat) : Option Char :=
  if n < UInt32.size then
    let c := if h : n.isValidChar then Char.ofNatAux n h else '\ufffd'
    if isXmlChar c then some c else none
  else none

/-- The character of what stands between `&` and `;`. -/
def referent? : List Char → Option Char
  | '#' :: 'x' :: digits => Text.valueIn? 16 digits >>= numbered?
  | '#' :: digits => Text.valueIn? 10 digits >>= numbered?
  | name =>
    [("amp", '&'), ("lt", '<'), ("gt", '>'), ("quot", '"'), ("apos", '\'')].lookup
      (String.ofList name)

/-- The pieces of a text from after an `&`. -/
def piecesAfterAmpersand (cs : List Char) : Option (List Piece) :=
  match cs.span (· != ';') with
  | (body, _ :: rest) => do
    let c ← referent? body
    return .reference c :: rest.map .literal
  | (_, []) => none

/-- The pieces of a list of texts, each from after an `&`. -/
def piecesAfter : List (List Char) → Option (List Piece)
  | [] => some []
  | cs :: rest => do
    let ps ← piecesAfterAmpersand cs
    let qs ← piecesAfter rest
    return ps ++ qs

/-- The pieces of a text. -/
def pieces? (cs : List Char) : Option (List Piece) :=
  match Text.fields '&' cs with
  | [] => some []
  | first :: rest => do
    let qs ← piecesAfter rest
    return first.map .literal ++ qs

/-- The pieces of a text, in which a character right after a reference counts as one
that a reference stands for. -/
def keepAfterReferences : List Piece → List Piece
  | .reference c :: .literal d :: ps => .reference c :: .reference d :: keepAfterReferences ps
  | p :: ps => p :: keepAfterReferences ps
  | [] => []

/-- The characters of some pieces, of which the references are kept, with the line ends
made line feeds. -/
def joinLines : List Piece → List Char
  | [] => []
  | [p] => [if p = .literal '\r' then '\n' else p.char]
  | p :: .literal c :: ps =>
    if p.char = '\r' then
      if c = '\n' then '\n' :: joinLines ps else '\n' :: joinLines (.literal c :: ps)
    else p.char :: joinLines (.literal c :: ps)
  | p :: q :: ps => p.char :: joinLines (q :: ps)

/-- The characters of a text with its line ends made line feeds. -/
def lineEnds (ps : List Piece) : List Char := joinLines (keepAfterReferences ps)

/-- The value of an attribute: its blanks are spaces, and a carriage return before
a line feed is dropped. -/
def attributeValue : List Piece → List Char
  | [] => []
  | .literal '\r' :: .literal '\n' :: ps => ' ' :: attributeValue ps
  | .literal c :: ps => (if isSpace c then ' ' else c) :: attributeValue ps
  | .reference c :: ps => c :: attributeValue ps

/-- The text before the first occurrence of a mark and the text after it, of a text
after `before` in reverse. -/
def breakFrom (mark before : List Char) : List Char → Option (List Char × List Char)
  | [] => none
  | c :: cs =>
    if mark.isPrefixOf (c :: cs) then some (before.reverse, (c :: cs).drop mark.length)
    else breakFrom mark (c :: before) cs

/-- The text before the first occurrence of a mark and the text after it. -/
def breakAt (mark cs : List Char) : Option (List Char × List Char) := breakFrom mark [] cs

/-- Whether a mark occurs in a text. -/
def hasMark (mark cs : List Char) : Bool := (breakAt mark cs).isSome

end SiteVpn.Xml
