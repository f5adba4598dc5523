import SiteVpn.Text.Blank
import SiteVpn.Text.Width

/-!
# Tables with elastic columns

The cells of a line end at tabs, its last cell at the end of the line. A column
is a run of consecutive lines that have a cell there which a tab ends. It is as
wide as its widest cell and at least two wide, and two blanks follow it. The
last cell of a line takes no part in this and is left as it is.
-/

namespace SiteVpn.Text.Table

/-- The least width of a column. -/
def leastWidth : Nat := 2

/-- The blanks after a column. -/
def gap : Nat := 2

/-- The widths of the cells that a tab ends. -/
def cellWidths (cells : List (List Char)) : List Nat :=
  cells.dropLast.map fun cell => max leastWidth (width cell)

/-- The widths of a line, each at least that of the line below where there is one. -/
def raise : List Nat → List Nat → List Nat
  | [], _ => []
  | w :: ws, [] => w :: ws
  | w :: ws, b :: bs => max w b :: raise ws bs

/-- For each cell, the width of its column from its line downwards. -/
def widthsBelow : List (List Nat) → List (List Nat)
  | [] => []
  | ws :: rest =>
    let below := widthsBelow rest
    raise ws (below.headD []) :: below

/-- The widths of a line, those of the line above where there are some. -/
def inherit : List Nat → List Nat → List Nat
  | _, [] => []
  | [], w :: ws => w :: ws
  | a :: as, _ :: ws => a :: inherit as ws

/-- For each cell, the width of its column, below a line with known widths. -/
def columnWidths (above : List Nat) : List (List Nat) → List (List Nat)
  | [] => []
  | ws :: rest =>
    let line := inherit above ws
    line :: columnWidths line rest

/-- A line with its cells padded to widths. -/
def pad : List (List Char) → List Nat → List Char
  | cell :: cells, w :: ws =>
    cell ++ List.replicate (w - width cell + gap) ' ' ++ pad cells ws
  | cells, _ => cells.flatten

/-- The lines of a text, the last one without a line end. -/
def lines (text : List Char) : List (List (List Char)) :=
  (fields '\n' text).map (fields '\t')

/-- The text with its columns aligned. -/
def layout (text : List Char) : List Char :=
  let ls := lines text
  let widths := columnWidths [] (widthsBelow (ls.map cellWidths))
  ['\n'].intercalate ((ls.zip widths).map fun p => pad p.1 p.2)

/-- A line of cells. -/
def row (cells : List String) : List Char :=
  ['\t'].intercalate (cells.map String.toList) ++ ['\n']

end SiteVpn.Text.Table
