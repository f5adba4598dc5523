import SiteVpn.Text.Blank

/-!
# Files and the paths to them

The place of a file is the sequence of names on the way to it from the root of a tree.
A path is read name by name from the root or from the working directory, and every step
starts at a directory. The first step that fails decides why a file cannot be read.
-/

namespace SiteVpn.CommandLine

/-- Why a file cannot be read. -/
inductive ReadFailure where
  | missing
  | denied
  /-- A step of the path starts at a file. -/
  | notDirectory
  | directory
  | nameTooLong
  | notText
  | other (account : String)
deriving DecidableEq, Repr

def ReadFailure.message : ReadFailure → String
  | .missing => "No such file or directory (os error 2)"
  | .denied => "Permission denied (os error 13)"
  | .notDirectory => "Not a directory (os error 20)"
  | .directory => "Is a directory (os error 21)"
  | .nameTooLong => "File name too long (os error 36)"
  | .notText => "stream did not contain valid UTF-8"
  | .other account => account

/-- The files that can be read, by the paths to them. -/
abbrev Files := String → Except ReadFailure String

/-- The number of bytes that one name has at most. -/
def maxNameBytes : Nat := 255

/-- The number of bytes that a path has at most. -/
def maxPathBytes : Nat := 4095

/-- The names on the way from the root of a tree. -/
abbrev Place := List String

/-- The directories and the texts of the files of a tree by their places. What is on the
way to a file is a directory too. -/
structure FileTree where
  directories : List Place
  files : List (Place × String)
deriving Repr

namespace FileTree

/-- Whether there is a directory at a place, as there is at the root. -/
def isDirectory (t : FileTree) (p : Place) : Bool :=
  p.isEmpty || t.directories.any (p.isPrefixOf ·) ||
    t.files.any fun f => p.isPrefixOf f.1 && p.length < f.1.length

/-- Whether there is a file or a directory at a place. -/
def isOccupied (t : FileTree) (p : Place) : Bool :=
  t.isDirectory p || t.files.any fun f => f.1 == p

/-- The place one step of a path away. The step `..` leads to the directory above, which
for the root is the root, and `.` and a step without a name stay in a directory. -/
def step (t : FileTree) (p : Place) (name : String) : Except ReadFailure Place :=
  if !t.isDirectory p then throw .notDirectory
  else if name = "" ∨ name = "." then return p
  else if name = ".." then return p.dropLast
  else if maxNameBytes < name.utf8ByteSize then throw .nameTooLong
  else if t.isOccupied (p ++ [name]) then return p ++ [name]
  else throw .missing

/-- The place that a path leads to from the working directory. A path that starts with
`/` starts at the root, and an empty one leads nowhere. -/
def locate (t : FileTree) (work : Place) (path : String) : Except ReadFailure Place :=
  if path = "" then throw .missing
  else if maxPathBytes < path.utf8ByteSize then throw .nameTooLong
  else
    let start := if path.toList.head? = some '/' then [] else work
    ((Text.fields '/' path.toList).map String.ofList).foldlM t.step start

/-- The text of the file that a path leads to from the working directory. -/
def read (t : FileTree) (work : Place) : Files := fun path => do
  let p ← t.locate work path
  match t.files.lookup p with
  | some text => return text
  | none => throw .directory

end FileTree

end SiteVpn.CommandLine
