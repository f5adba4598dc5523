import SiteVpn.Toml.Quoted
import SiteVpn.Toml.Scalar

/-!
# Statements of TOML texts

A line of a text is blank, the header of a table or of another element of an array
of tables, or an assignment of a value to a key, and it may end with a comment.
Arrays and inline tables may span lines and hold comments, and a comma may follow
their last part; they may be nested 80 deep. Around the `=` of an inline table's entry
lines may end too, while an assignment of its own stands on one line. A key has at most
80 parts.
-/

namespace SiteVpn.Toml

/-- The text after the blanks within a line. -/
def skipBlanks (cs : List Char) : List Char := cs.dropWhile isLineBlank

/-- The text after a comment, if it starts with one. -/
def skipComment : List Char → List Char
  | '#' :: cs => cs.dropWhile isLineChar
  | cs => cs

/-- The text after blanks, comments and line ends, of which at most `fuel` are read. -/
def skipLines : Nat → List Char → List Char
  | 0, cs => cs
  | fuel + 1, cs =>
    let cs := skipComment (skipBlanks cs)
    match skipLineEnd cs with
    | some rest => skipLines fuel rest
    | none => cs

/-- The text after everything between the parts of an array or an inline table. -/
def skipFiller (cs : List Char) : List Char := skipLines cs.length cs

/-- A character of a key without quotes. -/
def isKeyChar (c : Char) : Bool := c.isAlphanum || c == '_' || c == '-'

/-- The key at the start of a text, and the rest. -/
def scanSimpleKey (cs : List Char) : Option (List Char × List Char) :=
  match cs with
  | '"' :: _ => scanLineString cs
  | '\'' :: _ => scanLineString cs
  | _ =>
    match cs.span isKeyChar with
    | ([], _) => none
    | r => some r

/-- The key after `above` in reverse at the start of a text, and the rest after its
blanks. At most `fuel` parts are read. -/
def scanKeyFrom (above : List String) : Nat → List Char → Option (KeyPath × List Char)
  | 0, _ => none
  | fuel + 1, cs => do
    let (key, rest) ← scanSimpleKey (skipBlanks cs)
    match skipBlanks rest with
    | '.' :: rest => scanKeyFrom (String.ofList key :: above) fuel rest
    | rest => return (⟨above.reverse, String.ofList key⟩, rest)

/-- The number of parts that a key has at most. -/
def maxKeyParts : Nat := 80

/-- The key at the start of a text, blanks around it included, and the rest. -/
def scanKey (cs : List Char) : Option (KeyPath × List Char) := scanKeyFrom [] maxKeyParts cs

/-- A character of a value without quotes. -/
def isScalarChar (c : Char) : Bool := !" \t\r\n#,=[]\x7b\x7d".toList.contains c

/-- The value without quotes at the start of a text, and the rest. A time may follow a
date after a blank. -/
def scanScalar (cs : List Char) : Option (Toml × List Char) :=
  let (run, rest) := cs.span isScalarChar
  match rest with
  | ' ' :: d :: after =>
    if isDate run && d.isDigit then
      let (time, rest) := (d :: after).span isScalarChar
      (scalar? (run ++ ' ' :: time)).map fun v => (v, rest)
    else (scalar? run).map fun v => (v, rest)
  | rest => (scalar? run).map fun v => (v, rest)

/-- A function that reads the value at the start of a text. -/
abbrev Reader := List Char → Option (Toml × List Char)

/-- The items of an array after its bracket, and the text after it. At most `fuel`
items are read. -/
def scanItems (item : Reader) : Nat → List Char → Option (List Toml × List Char)
  | 0, _ => none
  | fuel + 1, cs =>
    match skipFiller cs with
    | ']' :: rest => some ([], rest)
    | cs => do
      let (v, rest) ← item cs
      match skipFiller rest with
      | ',' :: rest =>
        let (vs, rest) ← scanItems item fuel rest
        return (v :: vs, rest)
      | ']' :: rest => return ([v], rest)
      | _ => none

/-- The assignment at the start of a text, and the rest. What `skip` drops may stand on
both sides of its `=`. -/
def scanAssignment (skip : List Char → List Char) (value : Reader) (cs : List Char) :
    Option ((KeyPath × Toml) × List Char) := do
  let (key, rest) ← scanKey cs
  match skip rest with
  | '=' :: rest =>
    let (v, rest) ← value (skip rest)
    return ((key, v), rest)
  | _ => none

/-- The entries of an inline table after its brace, and the text after it. At most
`fuel` entries are read. -/
def scanEntries (value : Reader) : Nat → List Char → Option (List (KeyPath × Toml) × List Char)
  | 0, _ => none
  | fuel + 1, cs =>
    match skipFiller cs with
    | '\x7d' :: rest => some ([], rest)
    | cs => do
      let (e, rest) ← scanAssignment skipFiller value cs
      match skipFiller rest with
      | ',' :: rest =>
        let (es, rest) ← scanEntries value fuel rest
        return (e :: es, rest)
      | '\x7d' :: rest => return ([e], rest)
      | _ => none

/-- The value at the start of a text with at most `nesting` arrays and inline tables
inside each other, and the rest. -/
def scanValue (nesting : Nat) (cs : List Char) : Option (Toml × List Char) :=
  match nesting, cs with
  | _, '"' :: _ => (scanString cs).map fun r => (.string (String.ofList r.1), r.2)
  | _, '\'' :: _ => (scanString cs).map fun r => (.string (String.ofList r.1), r.2)
  | 0, '[' :: _ => none
  | n + 1, '[' :: rest =>
    (scanItems (scanValue n) cs.length rest).map fun r => (.array r.1, r.2)
  | 0, '\x7b' :: _ => none
  | n + 1, '\x7b' :: rest => do
    let (entries, rest) ← scanEntries (scanValue n) cs.length rest
    let t ← assignAll [] entries
    return (.table .inline t, rest)
  | _, cs => scanScalar cs

/-- How deep arrays and inline tables may be nested. -/
def maxNesting : Nat := 80

/-- A line of a text. -/
inductive Statement where
  | blank
  /-- The header of a table. -/
  | table (key : KeyPath)
  /-- The header of another table of an array. -/
  | element (key : KeyPath)
  | assignment (key : KeyPath) (value : Toml)

namespace Statement

/-- The statement at the start of a line without blanks before it, and the rest. -/
def scan : List Char → Option (Statement × List Char)
  | [] => some (.blank, [])
  | '[' :: '[' :: cs => do
    match ← scanKey cs with
    | (key, ']' :: ']' :: rest) => return (.element key, rest)
    | _ => none
  | '[' :: cs => do
    match ← scanKey cs with
    | (key, ']' :: rest) => return (.table key, rest)
    | _ => none
  | c :: cs =>
    if c = '#' ∨ c = '\n' ∨ c = '\r' then some (.blank, c :: cs)
    else (scanAssignment skipBlanks (scanValue maxNesting) (c :: cs)).map fun r =>
      (.assignment r.1.1 r.1.2, r.2)

/-- The statements of a text, of which at most `fuel` are read. -/
def scanAll : Nat → List Char → Option (List Statement)
  | 0, _ => none
  | fuel + 1, cs => do
    let (s, rest) ← scan (skipBlanks cs)
    match skipComment (skipBlanks rest) with
    | [] => return [s]
    | rest => return s :: (← scanAll fuel (← skipLineEnd rest))

end Statement

end SiteVpn.Toml
