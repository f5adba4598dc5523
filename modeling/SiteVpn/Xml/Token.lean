import SiteVpn.Xml.CharacterData

/-!
# Tokens of XML documents

A document is a sequence of tags, character data, comments and processing
instructions. Nothing else that starts with `<!` is a token, so a document type
declaration is an error wherever it stands. An XML declaration is recognised at
the start of the document only, and elsewhere it is an error.
-/

namespace SiteVpn.Xml

/-- An attribute as it is written. -/
structure Attribute where
  name : QName
  value : List Piece
deriving DecidableEq, Repr

inductive Token where
  | openTag (name : QName) (attributes : List Attribute)
  /-- The tag of an element without content. -/
  | emptyTag (name : QName) (attributes : List Attribute)
  | closeTag (name : QName)
  | text (pieces : List Piece)
  | cdata (content : List Char)
  | comment (content : List Char)
  | instruction (target content : List Char)
deriving DecidableEq, Repr

/-- The name and the quoted text of an attribute, and the rest. -/
def scanAssignment (cs : List Char) : Option (QName × List Char × List Char) := do
  let (name, rest) ← QName.scan cs
  match skipSpaces rest with
  | '=' :: rest =>
    match skipSpaces rest with
    | quote :: rest =>
      if quote = '\'' ∨ quote = '"' then
        match rest.span fun c => c != quote && c != '<' with
        | (value, end_ :: rest) => if end_ = quote then some (name, value, rest) else none
        | (_, []) => none
      else none
    | [] => none
  | _ => none

namespace Token

/-- The attributes of a tag, whether it ends with a slash, and the text after it. At
most `fuel` attributes are read. -/
def scanAttributes : Nat → List Char → Option (List Attribute × Bool × List Char)
  | 0, _ => none
  | fuel + 1, cs =>
    match skipSpaces cs with
    | '>' :: rest => some ([], false, rest)
    | '/' :: '>' :: rest => some ([], true, rest)
    | rest =>
      if startsWithSpace cs then do
        let (name, raw, rest) ← scanAssignment rest
        let value ← pieces? raw
        let (attributes, isEmpty, rest) ← scanAttributes fuel rest
        return (⟨name, value⟩ :: attributes, isEmpty, rest)
      else none

/-- The tag after its `<`, of whose attributes at most `fuel` are read. -/
def scanTag (fuel : Nat) (cs : List Char) : Option (Token × List Char) := do
  let (name, rest) ← QName.scan cs
  let (attributes, isEmpty, rest) ← scanAttributes fuel rest
  return (if isEmpty then .emptyTag name attributes else .openTag name attributes, rest)

/-- The tag after its `</`. -/
def scanCloseTag (cs : List Char) : Option (Token × List Char) := do
  let (name, rest) ← QName.scan cs
  match skipSpaces rest with
  | '>' :: rest => some (.closeTag name, rest)
  | _ => none

/-- The comment after its `<!--`: two hyphens only ever end it. -/
def scanComment (cs : List Char) : Option (Token × List Char) := do
  let (content, rest) ← breakAt "-->".toList cs
  if hasMark "--".toList content ∨ content.getLast? = some '-' then none
  else some (.comment content, rest)

/-- The processing instruction after its `<?`. -/
def scanInstruction (cs : List Char) : Option (Token × List Char) := do
  if "xml ".toList.isPrefixOf cs then none
  else
    let (target, rest) ← scanName cs
    let (content, rest) ← breakAt "?>".toList (skipSpaces rest)
    return (.instruction target content, rest)

/-- The character data at the start of a text. -/
def scanText (cs : List Char) : Option (Token × List Char) := do
  let (run, rest) := spanWhile (· != '<') cs
  if hasMark "]]>".toList run then none
  else
    let ps ← pieces? run
    return (.text ps, rest)

/-- The token at the start of a text, and the rest. Of a tag at most `fuel` attributes
are read. -/
def scan (fuel : Nat) : List Char → Option (Token × List Char)
  | '<' :: '!' :: '-' :: '-' :: cs => scanComment cs
  | '<' :: '!' :: '[' :: 'C' :: 'D' :: 'A' :: 'T' :: 'A' :: '[' :: cs =>
    (breakAt "]]>".toList cs).map fun r => (.cdata r.1, r.2)
  | '<' :: '!' :: _ => none
  | '<' :: '?' :: cs => scanInstruction cs
  | '<' :: '/' :: cs => scanCloseTag cs
  | '<' :: cs => scanTag fuel cs
  | cs => scanText cs

/-- The tokens of a text, of which at most `fuel` are read. -/
def scanAll : Nat → List Char → Option (List Token)
  | _, [] => some []
  | 0, _ => none
  | fuel + 1, cs => do
    let (token, rest) ← scan fuel cs
    let tokens ← scanAll fuel rest
    return token :: tokens

end Token

/-- The text after the blanks that must stand between two parts of the XML
declaration, unless it ends there. -/
def skipDeclared (cs : List Char) : Option (List Char) :=
  match skipSpaces cs with
  | '?' :: '>' :: rest => some ('?' :: '>' :: rest)
  | rest => if startsWithSpace cs then some rest else none

/-- The text after an assignment of the XML declaration whose name starts with a
keyword, if there is one. Its value is not looked at. -/
def skipAssignment (keyword : String) (cs : List Char) : Option (List Char) :=
  if keyword.toList.isPrefixOf cs then (scanAssignment cs).map fun r => r.2.2 else some cs

/-- The text after an XML declaration without its `<?xml`: a version, and then an
encoding and a note about other documents if they are given. -/
def skipDeclaration (cs : List Char) : Option (List Char) := do
  let cs := skipSpaces cs
  if "version".toList.isPrefixOf cs then
    let (_, _, cs) ← scanAssignment cs
    let cs ← skipDeclared cs
    let cs ← if "encoding".toList.isPrefixOf cs then
        skipAssignment "encoding" cs >>= skipDeclared
      else some cs
    let cs ← skipAssignment "standalone" cs
    match skipSpaces cs with
    | '?' :: '>' :: rest => some rest
    | _ => none
  else none

/-- The text after a byte order mark. -/
def skipByteOrderMark : List Char → List Char
  | '\ufeff' :: cs => cs
  | cs => cs

/-- The text after a byte order mark and an XML declaration. -/
def skipPreamble (cs : List Char) : Option (List Char) :=
  let cs := skipByteOrderMark cs
  if "<?xml ".toList.isPrefixOf cs then skipDeclaration (cs.drop 5) else some cs

/-- The tokens of a document. Every token and every attribute takes characters, so the
length of the text bounds their number. -/
def Token.ofText (cs : List Char) : Option (List Token) :=
  if cs.all isXmlChar then do
    let cs ← skipPreamble cs
    scanAll cs.length cs
  else none

end SiteVpn.Xml
