import SiteVpn.Text.Radix

/-!
# Strings in TOML texts

Basic strings have escapes and literal strings have none. Either kind may span
lines between triple quotes: a line end right after the opening is dropped, other
line ends stand for themselves, and one or two quotes may stand right before the
closing ones. Control characters other than the tab do not stand for themselves.
-/

namespace SiteVpn.Toml

/-- Whether a character may stand for itself in a line. -/
def isLineChar (c : Char) : Bool := c == '\t' || (0x20 ≤ c.toNat && c.toNat != 0x7F)

/-- The blanks within a line. -/
def isLineBlank (c : Char) : Bool := c == ' ' || c == '\t'

/-- The text after a line end. -/
def skipLineEnd : List Char → Option (List Char)
  | '\n' :: cs => some cs
  | '\r' :: '\n' :: cs => some cs
  | _ => none

/-- The character of so many hexadecimal digits, and the rest. -/
def scanCode (count : Nat) (cs : List Char) : Option (Char × List Char) := do
  let digits := cs.take count
  let n ← Text.valueIn? 16 digits
  if h : digits.length = count ∧ n.isValidChar then
    return (Char.ofNatAux n h.2, cs.drop count)
  else none

/-- The character of an escape after its backslash, and the rest. -/
def scanEscape : List Char → Option (Char × List Char)
  | 'b' :: cs => some ('\x08', cs)
  | 't' :: cs => some ('\t', cs)
  | 'n' :: cs => some ('\n', cs)
  | 'f' :: cs => some ('\x0c', cs)
  | 'r' :: cs => some ('\r', cs)
  | 'e' :: cs => some ('\x1b', cs)
  | '"' :: cs => some ('"', cs)
  | '\\' :: cs => some ('\\', cs)
  | 'x' :: cs => scanCode 2 cs
  | 'u' :: cs => scanCode 4 cs
  | 'U' :: cs => scanCode 8 cs
  | _ => none

/-- The text after a line end that a backslash drops, with the blanks and the line
ends that follow it. -/
def skipContinuation (cs : List Char) : Option (List Char) := do
  let rest ← skipLineEnd (cs.dropWhile isLineBlank)
  return skip rest
where
  /-- The text after blanks and line ends. -/
  skip : List Char → List Char
    | '\r' :: '\n' :: cs => skip cs
    | c :: cs => if c = ' ' ∨ c = '\t' ∨ c = '\n' then skip cs else c :: cs
    | [] => []

/-- The content after `before` in reverse of a basic string, and the text after it. At
most `fuel` characters are read. -/
def scanBasic (before : List Char) : Nat → List Char → Option (List Char × List Char)
  | _, '"' :: cs => some (before.reverse, cs)
  | fuel + 1, '\\' :: cs => do
    let (c, rest) ← scanEscape cs
    scanBasic (c :: before) fuel rest
  | fuel + 1, c :: cs => if isLineChar c then scanBasic (c :: before) fuel cs else none
  | _, _ => none

/-- The content after `before` in reverse of a literal string, and the text after
it. -/
def scanLiteral (before : List Char) : List Char → Option (List Char × List Char)
  | '\'' :: cs => some (before.reverse, cs)
  | c :: cs => if isLineChar c then scanLiteral (c :: before) cs else none
  | [] => none

/-- The text after the closing quotes of a string of lines, with the quotes that stand
right before them. -/
def scanClosing (quote : Char) (cs : List Char) : Option (List Char × List Char) :=
  let quotes := (cs.takeWhile (· == quote)).length
  if quotes < 3 then none
  else
    let extra := min (quotes - 3) 2
    some (List.replicate extra quote, cs.drop (extra + 3))

/-- The content after `before` in reverse of a basic string of lines, and the text
after it. At most `fuel` characters are read. -/
def scanBasicLines (before : List Char) : Nat → List Char → Option (List Char × List Char)
  | 0, _ => none
  | fuel + 1, cs =>
    match scanClosing '"' cs with
    | some (quotes, rest) => some (before.reverse ++ quotes, rest)
    | none =>
      match cs with
      | '\\' :: cs =>
        match skipContinuation cs with
        | some rest => scanBasicLines before fuel rest
        | none => do
          let (c, rest) ← scanEscape cs
          scanBasicLines (c :: before) fuel rest
      | '\r' :: '\n' :: cs => scanBasicLines ('\n' :: '\r' :: before) fuel cs
      | c :: cs =>
        if isLineChar c ∨ c = '\n' then scanBasicLines (c :: before) fuel cs else none
      | [] => none

/-- The content after `before` in reverse of a literal string of lines, and the text
after it. At most `fuel` characters are read. -/
def scanLiteralLines (before : List Char) : Nat → List Char → Option (List Char × List Char)
  | 0, _ => none
  | fuel + 1, cs =>
    match scanClosing '\'' cs with
    | some (quotes, rest) => some (before.reverse ++ quotes, rest)
    | none =>
      match cs with
      | '\r' :: '\n' :: cs => scanLiteralLines ('\n' :: '\r' :: before) fuel cs
      | c :: cs =>
        if isLineChar c ∨ c = '\n' then scanLiteralLines (c :: before) fuel cs else none
      | [] => none

/-- The text after a line end, if it starts with one. -/
def dropLineEnd (cs : List Char) : List Char := (skipLineEnd cs).getD cs

/-- The string at the start of a text that starts with a quote, and the rest. -/
def scanString : List Char → Option (List Char × List Char)
  | '"' :: '"' :: '"' :: cs => scanBasicLines [] (cs.length + 1) (dropLineEnd cs)
  | '\'' :: '\'' :: '\'' :: cs => scanLiteralLines [] (cs.length + 1) (dropLineEnd cs)
  | '"' :: cs => scanBasic [] cs.length cs
  | '\'' :: cs => scanLiteral [] cs
  | _ => none

/-- The string of one line at the start of a text that starts with a quote, and the
rest. -/
def scanLineString : List Char → Option (List Char × List Char)
  | '"' :: cs => scanBasic [] cs.length cs
  | '\'' :: cs => scanLiteral [] cs
  | _ => none

end SiteVpn.Toml
