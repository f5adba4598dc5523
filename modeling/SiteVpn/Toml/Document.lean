import SiteVpn.Toml.Statement

/-!
# TOML documents

The assignments after a header belong to its table, and those before the first
header to the root. A header reaches its table from the root. It makes the table,
unless headers of tables inside it already have, or adds one to an array.
-/

namespace SiteVpn.Toml

/-- The table that a header opens. -/
inductive Header where
  | root
  | table (key : KeyPath)
  | element (key : KeyPath)

/-- A header with the assignments after it. -/
structure Section where
  header : Header
  entries : List (KeyPath × Toml)

/-- The sections of some statements, in which the assignments after the last header
come first. -/
def sectionsFrom (header : Header) (before : List (KeyPath × Toml)) :
    List Statement → List Section
  | [] => [⟨header, before.reverse⟩]
  | .blank :: ss => sectionsFrom header before ss
  | .assignment key value :: ss => sectionsFrom header ((key, value) :: before) ss
  | .table key :: ss => ⟨header, before.reverse⟩ :: sectionsFrom (.table key) [] ss
  | .element key :: ss => ⟨header, before.reverse⟩ :: sectionsFrom (.element key) [] ss

/-- The sections of some statements. -/
def sections (statements : List Statement) : List Section :=
  sectionsFrom .root [] statements

/-- Adds a table with a header of its own. -/
def addTable (entries : List (KeyPath × Toml)) (key : String) (t : Table) : Option Table :=
  match t.lookup key with
  | none => (assignAll [] entries).map fun u => set t key (.table .header u)
  | some (.table .implied u) =>
    (assignAll u entries).map fun u => set t key (.table .header u)
  | some _ => none

/-- Adds a table to an array of tables. -/
def addElement (entries : List (KeyPath × Toml)) (key : String) (t : Table) : Option Table :=
  match t.lookup key with
  | none => (assignAll [] entries).map fun u => set t key (.tables [u])
  | some (.tables us) => (assignAll [] entries).map fun u => set t key (.tables (u :: us))
  | some _ => none

/-- Adds a section to the root. -/
def addSection (root : Table) (s : Section) : Option Table :=
  match s.header with
  | .root => assignAll root s.entries
  | .table key =>
    descend false (fun _ t => addTable s.entries key.last t) key.above .header root
  | .element key =>
    descend false (fun _ t => addElement s.entries key.last t) key.above .header root

/-- The root table of some statements. -/
def ofStatements (statements : List Statement) : Option Table :=
  (sections statements).foldlM addSection []

/-- The root table of a text, which may start with a byte order mark. -/
def read (text : List Char) : Option Table := do
  let cs := match text with
    | '\ufeff' :: cs => cs
    | cs => cs
  ofStatements (← Statement.scanAll (cs.length + 1) cs)

end SiteVpn.Toml
