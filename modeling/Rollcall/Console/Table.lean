import Rollcall.Console
import Rollcall.Console.Wrap
import Rollcall.Datum.Double

/-!
# Tables

A table is a row of columns, each with a head and cells, drawn with lines around them.  A column is as wide as its
widest cell, and a cell has a space on both sides.  Where the table is wider than the console, its widest columns give
way.  A cell may have several lines.
-/

namespace Rollcall.Console

/-- The strokes of one line of a table: the left end, the divider and the right end. -/
structure Strokes where
  left : String
  divider : String
  right : String
deriving DecidableEq, Repr, Inhabited

namespace Table

/-! ### Widths -/

/-- Whether a line of text ends at this character when the width of a cell is measured.  Where a cell is shown, only a
line feed ends a line. -/
def isLineEnd (c : Char) : Bool :=
  let n := c.toNat
  (0x0A ≤ n && n ≤ 0x0D) || (0x1C ≤ n && n ≤ 0x1E) || n == 0x85 || n == 0x2028 || n == 0x2029

/-- The greatest of some numbers. -/
def greatest (ns : List Nat) : Nat :=
  ns.foldl max 0

/-- The sum of some numbers. -/
def total (ns : List Nat) : Nat :=
  ns.foldl (· + ·) 0

/-- The number of columns of the console that the text of a cell takes. -/
def cellWidth (cell : String) : Nat :=
  greatest ((cell.toList.splitOnP isLineEnd).map width)

/-- The columns that the spaces beside the text of a cell take. -/
def margin : Nat := 2

/-- The width of a column with its spaces, which is at most `limit`. -/
def columnWidth (limit : Nat) (c : Column) : Nat :=
  min limit (greatest ((c.head :: c.cells).map cellWidth) + margin)

/-- Takes `excess` from the widths equal to `widest`, of which there are `count`, in equal parts of at most
`most`. -/
def narrow (widest most : Nat) : (excess count : Nat) → List Nat → List Nat
  | _, _, [] => []
  | excess, count, n :: ns =>
    if n = widest then
      let part := min most (Double.roundDiv excess count)
      (n - part) :: narrow widest most (excess - part) (count - 1) ns
    else n :: narrow widest most excess count ns

/-- Widths whose sum is at most `limit`: the widest give way first, until they are as narrow as the next ones.  Each
step takes something away, and there are at most `steps` of them. -/
def fitted (limit : Nat) : (steps : Nat) → List Nat → List Nat
  | 0, widths => widths
  | steps + 1, widths =>
    if total widths ≤ limit then widths
    else
      let excess := total widths - limit
      let widest := greatest widths
      let next := greatest (widths.filter (· ≠ widest))
      fitted limit steps (narrow widest (min excess (widest - next)) excess (widths.count widest) widths)

/-- The widths of the columns of a table on a console of `columns` columns.  A stroke stands on both sides of each
column of the table. -/
def widthsOf (columns : Nat) (table : List Column) : List Nat :=
  let limit := columns - (table.length + 1)
  let widths := table.map (columnWidth limit)
  fitted limit (total widths) widths

/-! ### Rows -/

/-- The cells of each row. -/
def rows (columns : List Column) : List (List String) :=
  (List.range (greatest (columns.map fun c => c.cells.length))).map fun i =>
    columns.map fun c => (c.cells[i]?).getD ""

/-- A line of a cell with spaces up to the width of its column. -/
def padded (columns : Nat) (line : List Char) : List Char :=
  line ++ List.replicate (columns - width line) ' '

/-- The lines of a cell.  They are padded twice, since the first space may stand behind a joiner that hides it. -/
def cellLines (columns : Nat) (cell : String) : List String :=
  (Wrap.lines .ellipsis columns cell.toList).map fun line => String.ofList (padded columns (padded columns line))

/-- A line of cells. -/
def cellLine (s : Strokes) (cells : List String) : String :=
  s.left ++ s.divider.intercalate (cells.map fun cell => " " ++ cell ++ " ") ++ s.right

/-- The lines of a row. -/
def rowLines (s : Strokes) (widths : List Nat) (row : List String) : List String :=
  let cells := (widths.zip row).map fun (n, cell) => (n - margin, cellLines (n - margin) cell)
  (List.range (greatest (cells.map fun (_, lines) => lines.length))).map fun i =>
    cellLine s (cells.map fun (n, lines) => (lines[i]?).getD (String.ofList (padded n [])))

/-- A line between rows. -/
def rule (s : Strokes) (stroke : Char) (widths : List Nat) : String :=
  s.left ++ s.divider.intercalate (widths.map fun n => String.ofList (List.replicate n stroke)) ++ s.right

/-- The lines of a table on a console of `columns` columns. -/
def lines (columns : Nat) (table : List Column) : List String :=
  let widths := widthsOf columns table
  [rule ⟨"┏", "┳", "┓"⟩ '━' widths] ++ rowLines ⟨"┃", "┃", "┃"⟩ widths (table.map (·.head)) ++
    [rule ⟨"┡", "╇", "┩"⟩ '━' widths] ++ (rows table).flatMap (rowLines ⟨"│", "│", "│"⟩ widths) ++
    [rule ⟨"└", "┴", "┘"⟩ '─' widths]

end Table

end Rollcall.Console
