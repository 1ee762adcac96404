/-!
Aligning text in columns.

Text is cut into lines at newlines and each line into cells at tabs and vertical tabs; the last
cell of a line is not part of any column. A form feed ends a line as a newline does, and is
written as one, but it also ends every column, so the text after it is aligned on its own. A column is a run of consecutive lines that all have a cell in it,
begun afresh by each line that does not: cells in a column are padded to the width of its widest
cell plus the padding, and never below the least width. Widths count characters. Columns to the
right are found inside the run of the column to their left, so one line without tabs starts the
alignment of all columns anew.

Main statement: a line's padded cells are never narrower than its cells (`pad_length`).
-/

namespace Lanes.Text

/-- How columns are laid out: the least width of a column, the blanks after its widest cell,
and the character that pads. -/
structure Columns where
  minWidth : Nat
  padding : Nat
  fill : Char

/-- A line's cells; the last one is not aligned. -/
abbrev Line := List String

/-- Groups consecutive lines by whether they pass `p`. -/
def runs (p : Line → Bool) : List Line → List (Bool × List Line)
  | [] => []
  | l :: rest =>
    match runs p rest with
    | (b, g) :: gs => if b == p l then (b, l :: g) :: gs else (p l, [l]) :: (b, g) :: gs
    | [] => [(p l, [l])]

/-- Whether a line has a cell in a column. -/
def hasCell (column : Nat) (l : Line) : Bool := column + 1 < l.length

/-- The width of a column over the lines of its run. -/
def Columns.width (c : Columns) (column : Nat) (ls : List Line) : Nat :=
  ls.foldl (fun w l => max w ((l.getD column "").length + c.padding)) c.minWidth

/-- The widths each line is written with, lines taken from column `column` on; `fuel` bounds
the number of columns. -/
def Columns.widthsWithin (c : Columns) : Nat → Nat → List Nat → List Line → List (List Nat)
  | 0, _, widths, ls => ls.map fun _ => widths
  | fuel + 1, column, widths, ls =>
    (runs (hasCell column) ls).flatMap fun (inside, run) =>
      if inside then c.widthsWithin fuel (column + 1) (widths ++ [c.width column run]) run
      else run.map fun _ => widths

/-- A cell padded to its column's width; cells past the known columns are left as they are. -/
def Columns.pad (c : Columns) (widths : List Nat) (j : Nat) (cell : String) : String :=
  match widths[j]? with
  | some w => cell ++ String.ofList (List.replicate (w - cell.length) c.fill)
  | none => cell

/-- A line written with its widths. -/
def Columns.render (c : Columns) (widths : List Nat) (l : Line) : String :=
  String.join (l.zipIdx.map fun (cell, j) => c.pad widths j cell)

/-- Text without form feeds with its tab-separated cells aligned in columns. -/
def Columns.alignBlock (c : Columns) (text : String) : String :=
  let lines : List Line := (text.splitOn "\n").map (·.splitOn "\t")
  let fuel := lines.foldl (fun m l => max m l.length) 0
  let widths := c.widthsWithin fuel 0 [] lines
  "\n".intercalate ((lines.zip widths).map fun (l, w) => c.render w l)

/-- Text with its cells aligned in columns, each block between form feeds on its own. -/
def Columns.align (c : Columns) (text : String) : String :=
  "\n".intercalate ((text.splitOn "\x0c").map fun block =>
    c.alignBlock (block.map fun ch => if ch = '\x0b' then '\t' else ch))

theorem pad_length (c : Columns) (widths : List Nat) (j : Nat) (cell : String) :
    cell.length ≤ (c.pad widths j cell).length := by
  unfold Columns.pad
  split <;> simp

end Lanes.Text
