/-!
# Characters and names of XML

Which characters a document may hold at all, which ones a name may start with
and go on with, and qualified names: a local part, and before a colon a prefix,
which may be missing or empty.
-/

namespace SiteVpn.Xml

/-- The blanks of markup. -/
def isSpace (c : Char) : Bool := c == ' ' || c == '\t' || c == '\n' || c == '\r'

/-- A character that a document may hold. -/
def isXmlChar (c : Char) : Bool :=
  if c.toNat < 0x20 then isSpace c else c.toNat != 0xFFFE && c.toNat != 0xFFFF

/-- A letter outside ASCII that a name may start with. -/
def isNameLetter (n : Nat) : Bool :=
  (0xC0 ≤ n && n ≤ 0xD6) || (0xD8 ≤ n && n ≤ 0xF6) || (0xF8 ≤ n && n ≤ 0x2FF) ||
    (0x370 ≤ n && n ≤ 0x37D) || (0x37F ≤ n && n ≤ 0x1FFF) || (0x200C ≤ n && n ≤ 0x200D) ||
    (0x2070 ≤ n && n ≤ 0x218F) || (0x2C00 ≤ n && n ≤ 0x2FEF) ||
    (0x3001 ≤ n && n ≤ 0xD7FF) || (0xF900 ≤ n && n ≤ 0xFDCF) ||
    (0xFDF0 ≤ n && n ≤ 0xFFFD) || (0x10000 ≤ n && n ≤ 0xEFFFF)

/-- A character that a name may start with. -/
def isNameStart (c : Char) : Bool :=
  c.isAlpha || c == '_' || c == ':' || isNameLetter c.toNat

/-- A character that a name may go on with. -/
def isNameChar (c : Char) : Bool :=
  isNameStart c || c.isDigit || c == '-' || c == '.' || c.toNat == 0xB7 ||
    (0x300 ≤ c.toNat && c.toNat ≤ 0x36F) || (0x203F ≤ c.toNat && c.toNat ≤ 0x2040)

/-- A qualified name. -/
structure QName where
  /-- The part before the colon, empty where there is none. -/
  space : String
  /-- The part after the colon. -/
  base : String
deriving DecidableEq, Repr, Inhabited

/-- The characters before the first one that fails a test, and the rest. -/
def spanWhile (p : Char → Bool) (cs : List Char) : List Char × List Char := cs.span p

/-- The name at the start of a text, and the rest. -/
def scanName : List Char → Option (List Char × List Char)
  | c :: cs => if isNameStart c then some (spanWhile isNameChar (c :: cs)) else none
  | [] => none

/-- Whether a text is empty or starts as a name does. -/
def startsName : List Char → Bool
  | [] => true
  | c :: _ => isNameStart c

/-- The qualified name of a run of name characters: at most one colon, and a local
part that is not empty. -/
def QName.ofRun? (run : List Char) : Option QName :=
  match run.span (· != ':') with
  | (base, []) =>
    if startsName base ∧ base ≠ [] then some ⟨"", String.ofList base⟩ else none
  | (space, _ :: base) =>
    if startsName space ∧ startsName base ∧ base ≠ [] ∧ ':' ∉ base then
      some ⟨String.ofList space, String.ofList base⟩
    else none

/-- The qualified name at the start of a text, and the rest. -/
def QName.scan (cs : List Char) : Option (QName × List Char) :=
  let (run, rest) := spanWhile isNameChar cs
  (ofRun? run).map fun name => (name, rest)

/-- A text without the blanks at its start. -/
def skipSpaces (cs : List Char) : List Char := cs.dropWhile isSpace

/-- Whether a text starts with a blank. -/
def startsWithSpace (cs : List Char) : Bool := cs.head?.any isSpace

end SiteVpn.Xml
