import SiteVpn.Json.Number
import SiteVpn.Json.Quoted

/-!
# Tokens of JSON texts

A text is a sequence of tokens with blanks between them. A string token carries
its content, or nothing where it has none.
-/

namespace SiteVpn.Json

inductive Token where
  | openArray
  | closeArray
  | openObject
  | closeObject
  | comma
  | colon
  | string (content : Option String)
  /-- A number, a truth value or the null value. -/
  | scalar (value : Json)

/-- The blanks of JSON texts. -/
def isBlank (c : Char) : Bool := c == ' ' || c == '\n' || c == '\t' || c == '\r'

namespace Token

/-- The token at the start of a text that starts with no blank, and the rest. -/
def scan : List Char → Option (Token × List Char)
  | '[' :: cs => some (.openArray, cs)
  | ']' :: cs => some (.closeArray, cs)
  | '\x7b' :: cs => some (.openObject, cs)
  | '\x7d' :: cs => some (.closeObject, cs)
  | ',' :: cs => some (.comma, cs)
  | ':' :: cs => some (.colon, cs)
  | '"' :: cs => do
    let (units, rest) ← scanUnits [] cs
    return (.string ((content? units).map String.ofList), rest)
  | 'n' :: 'u' :: 'l' :: 'l' :: cs => some (.scalar .null, cs)
  | 't' :: 'r' :: 'u' :: 'e' :: cs => some (.scalar (.bool true), cs)
  | 'f' :: 'a' :: 'l' :: 's' :: 'e' :: cs => some (.scalar (.bool false), cs)
  | cs => do
    let (literal, rest) ← NumberLiteral.scan cs
    return (.scalar literal.toJson, rest)

/-- The tokens of a text, of which at most `fuel` are read. -/
def scanAll : Nat → List Char → Option (List Token)
  | 0, _ => none
  | fuel + 1, cs =>
    match cs.dropWhile isBlank with
    | [] => some []
    | rest => do
      let (token, rest) ← scan rest
      let tokens ← scanAll fuel rest
      return token :: tokens

/-- The tokens of a text. Every token takes a character, so its length bounds
their number. -/
def ofText (cs : List Char) : Option (List Token) := scanAll (cs.length + 1) cs

end Token

end SiteVpn.Json
