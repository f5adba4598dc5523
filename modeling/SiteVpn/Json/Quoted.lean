import SiteVpn.Json.Basic
import SiteVpn.Digest.Salt
import SiteVpn.Text.Radix

/-!
# Strings in JSON texts

Between the quotes stand characters and escapes. An escape by code names a unit
of UTF-16, so a character outside the basic plane takes two of them, and a unit
that is half of a pair without its other half leaves the string without
content. Control characters never stand for themselves.
-/

namespace SiteVpn.Json

/-- What stands between the quotes: a character, or a unit of UTF-16. -/
inductive StringUnit where
  | char (c : Char)
  | code (u : Nat)
deriving DecidableEq, Repr

/-- The character of an escape by letter. -/
def escaped? : Char → Option Char
  | '"' => some '"'
  | '\\' => some '\\'
  | '/' => some '/'
  | 'b' => some '\x08'
  | 'f' => some '\x0c'
  | 'n' => some '\n'
  | 'r' => some '\r'
  | 't' => some '\t'
  | _ => none

/-- The units up to the closing quote after `before` in reverse, and the text after
it. -/
def scanUnits (before : List StringUnit) : List Char → Option (List StringUnit × List Char)
  | '"' :: cs => some (before.reverse, cs)
  | '\\' :: 'u' :: a :: b :: c :: d :: cs =>
    match Text.valueIn? 16 [a, b, c, d] with
    | some u => scanUnits (.code u :: before) cs
    | none => none
  | '\\' :: e :: cs =>
    match escaped? e with
    | some c => scanUnits (.char c :: before) cs
    | none => none
  | c :: cs =>
    if c = '\\' ∨ c.toNat < 0x20 then none else scanUnits (.char c :: before) cs
  | [] => none

/-- The content of a string after `before` in reverse: every first half of a pair is
followed by a second half, and there are no other halves. -/
def contentFrom (before : List Char) : List StringUnit → Option (List Char)
  | [] => some before.reverse
  | .char c :: us => contentFrom (c :: before) us
  | .code u :: .code v :: us =>
    if 0xD800 ≤ u ∧ u ≤ 0xDBFF then
      if 0xDC00 ≤ v ∧ v ≤ 0xDFFF then
        contentFrom
          (Char.ofNat (0x10000 + (u - 0xD800) * 0x400 + (v - 0xDC00)) :: before) us
      else none
    else if 0xDC00 ≤ u ∧ u ≤ 0xDFFF then none
    else contentFrom (Char.ofNat u :: before) (.code v :: us)
  | .code u :: us =>
    if 0xD800 ≤ u ∧ u ≤ 0xDFFF then none else contentFrom (Char.ofNat u :: before) us

/-- The content of a string. -/
def content? (units : List StringUnit) : Option (List Char) := contentFrom [] units

/-- One character between quotes. -/
def quoteChar (c : Char) : List Char :=
  if c = '"' then ['\\', '"']
  else if c = '\\' then ['\\', '\\']
  else if c = '\x08' then ['\\', 'b']
  else if c = '\x0c' then ['\\', 'f']
  else if c = '\n' then ['\\', 'n']
  else if c = '\r' then ['\\', 'r']
  else if c = '\t' then ['\\', 't']
  else if c.toNat < 0x20 then
    ['\\', 'u', '0', '0', hexDigit (c.toNat / 16), hexDigit (c.toNat % 16)]
  else [c]

/-- A text in quotes. -/
def quote (cs : List Char) : List Char := '"' :: (cs.flatMap quoteChar ++ ['"'])

end SiteVpn.Json
