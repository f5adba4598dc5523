/-!
# TOML values

A table is a list of entries with different keys. How a table came to be decides
what may still be added to it: an inline table is closed, one with a header of its
own is not given a second one, and keys with dots extend only tables that such
keys have made.
-/

namespace SiteVpn

/-- How a table came to be. -/
inductive TableOrigin where
  /-- By a header of its own, or as the root. -/
  | header
  /-- By the header of a table inside it. -/
  | implied
  /-- By a key with dots. -/
  | dotted
  | inline
deriving DecidableEq, Repr, Inhabited

inductive Toml where
  | string (s : String)
  | boolean (b : Bool)
  | integer (n : Int)
  /-- Any other number, as text. -/
  | decimal (literal : String)
  /-- A date, a time or both, as text. -/
  | moment (literal : String)
  | array (items : List Toml)
  /-- The tables of an array that headers build, the latest first. -/
  | tables (elements : List (List (String × Toml)))
  | table (origin : TableOrigin) (entries : List (String × Toml))
deriving Inhabited

namespace Toml

/-- The entries of a table. -/
abbrev Table := List (String × Toml)

/-- The place of a key: the keys of the tables around it, and the key itself. -/
structure KeyPath where
  above : List String
  last : String
deriving DecidableEq, Repr, Inhabited

/-- Puts a value under a key, in place of one that is there. -/
def set (t : Table) (key : String) (value : Toml) : Table :=
  match t with
  | [] => [(key, value)]
  | e :: es => if e.1 = key then (key, value) :: es else e :: set es key value

/-- Changes the table that is reached from a table through some keys. Tables that are
missing on the way are made. Of an array of tables the latest is meant. -/
def descend (dotted : Bool) (f : TableOrigin → Table → Option Table) :
    List String → TableOrigin → Table → Option Table
  | [], origin, t => f origin t
  | key :: keys, _, t =>
    match t.lookup key with
    | none =>
      let origin := if dotted then .dotted else .implied
      (descend dotted f keys origin []).map fun u => set t key (.table origin u)
    | some (.table origin u) =>
      if origin = .inline ∨ (dotted ∧ origin = .header) then none
      else (descend dotted f keys origin u).map fun u => set t key (.table origin u)
    | some (.tables (u :: us)) =>
      (descend dotted f keys .header u).map fun u => set t key (.tables (u :: us))
    | some _ => none

/-- Adds an entry by a key, which may have dots. -/
def assign (t : Table) (key : KeyPath) (value : Toml) : Option Table :=
  descend true (fun origin u =>
    if (u.lookup key.last).isSome ∨ (key.above ≠ [] ∧ origin ≠ .dotted) then none
    else some (set u key.last value)) key.above .header t

/-- Adds entries one by one. -/
def assignAll (t : Table) (entries : List (KeyPath × Toml)) : Option Table :=
  entries.foldlM (fun t e => assign t e.1 e.2) t

def string? : Toml → Option String
  | .string s => some s
  | _ => none

def boolean? : Toml → Option Bool
  | .boolean b => some b
  | _ => none

/-- The texts of an array of texts. -/
def strings? : Toml → Option (List String)
  | .array items => items.mapM string?
  | _ => none

end Toml

end SiteVpn
