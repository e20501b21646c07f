import TemplateAssist.Number.Binary64
import TemplateAssist.Report.Wrap

/-!
# Tables in boxes

A table is written as a title, centred over the table, and a box with a heavy frame around the
header and a light one around the rows.  A column is as wide as its widest cell, with a space on
each side, unless the table then is wider than the terminal: the widest columns are narrowed until
it fits, and their cells are shown in several lines.
-/

set_option autoImplicit false

namespace TemplateAssist

/-- The width of the terminal. -/
def terminalWidth : Nat := 400

/-- To which side the cells of a column are moved. -/
inductive Alignment where
  | left
  | right
  deriving DecidableEq, Repr

/-- A column of a table. -/
structure Column where
  header : String
  alignment : Alignment := .left
  deriving DecidableEq, Repr

/-- A table.  Every row has a cell for each column. -/
structure Table where
  title : Text
  columns : List Column
  rows : List (List Text)
  deriving DecidableEq, Repr

namespace Table

/-! ## Widths of columns -/

/-- The sum of some widths. -/
def total (widths : List Nat) : Nat := widths.foldl (· + ·) 0

/-- Takes `excess` away in equal shares, but at most `most` each, from those of the widths that are
`widest`; there are `count` of these left. -/
def takeShares (widest most excess count : Nat) : List Nat → List Nat
  | [] => []
  | width :: rest =>
    if width = widest then
      let part := min most (roundDiv excess count)
      (width - part) :: takeShares widest most (excess - part) (count - 1) rest
    else width :: takeShares widest most excess count rest

/-- Narrows the widest columns by `excess` in all, but no further than to the next width. -/
def narrowWidest (excess : Nat) (widths : List Nat) : List Nat :=
  let widest := widths.foldl max 0
  let next := (widths.filter (· ≠ widest)).foldl max 0
  takeShares widest (min excess (widest - next)) excess (widths.count widest) widths

/-- Narrows columns until they take `limit` in all, in at most the given number of rounds. -/
def narrow (limit : Nat) : Nat → List Nat → List Nat
  | 0, widths => widths
  | rounds + 1, widths =>
    if total widths ≤ limit then widths
    else narrow limit rounds (narrowWidest (total widths - limit) widths)

/-- The widths of the columns, the spaces at the sides of the cells included.  Each round narrows
the columns by at least one, so there are enough rounds. -/
def widths (t : Table) : List Nat :=
  let limit := terminalWidth - (t.columns.length + 1)
  let wanted := t.columns.zipIdx.map fun (column, i) ↦
    let cells := (t.rows.map fun row ↦ (row.getD i []).widest).foldl max
      (Text.widest column.header.toList)
    min (cells + 2) limit
  narrow limit (total wanted) wanted

/-! ## Lines -/

/-- A line of a cell, filled up to a width. -/
def pad (alignment : Alignment) (width : Nat) (line : Text) : Text :=
  let blanks := List.replicate (width - line.width) ' '
  match alignment with
  | .left => line ++ blanks
  | .right => blanks ++ line

/-- A line of a cell, filled up to a width even if it ends with a joiner, which takes the first
blank to itself. -/
def fillUp (alignment : Alignment) (width : Nat) (line : Text) : Text :=
  pad .left width (pad alignment width line)

/-- The corners and edges of a horizontal rule. -/
structure Rule where
  left : Char
  line : Char
  cross : Char
  right : Char

/-- A horizontal rule over columns of some widths. -/
def Rule.write (r : Rule) (widths : List Nat) : Text :=
  r.left :: [r.cross].intercalate (widths.map fun width ↦ List.replicate width r.line) ++ [r.right]

/-- The rule above the header. -/
def topRule : Rule := ⟨'┏', '━', '┳', '┓'⟩

/-- The rule between the header and the rows. -/
def headRule : Rule := ⟨'┡', '━', '╇', '┩'⟩

/-- The rule below the rows. -/
def bottomRule : Rule := ⟨'└', '─', '┴', '┘'⟩

/-- The lines of a cell in a column of some width. -/
def cellLines (column : Column) (width : Nat) (cell : Text) : List Text :=
  (cell.shownLines .ellipsis (width - 2)).map fun line ↦
    [' '] ++ fillUp column.alignment (width - 2) line ++ [' ']

/-- The lines of a row between vertical bars, for columns with their widths.  The row is as high as
its highest cell. -/
def row (bar : Char) (columns : List (Column × Nat)) (cells : List Text) : List Text :=
  let split := (cells.zip columns).map fun (cell, column, width) ↦
    (width, cellLines column width cell)
  let height := (split.map (·.2.length)).foldl max 1
  (List.range height).map fun i ↦
    let pieces := split.map fun (width, lines) ↦ lines.getD i (List.replicate width ' ')
    bar :: [bar].intercalate pieces ++ [bar]

/-- A title in the middle of a width. -/
def titleLines (width : Nat) (title : Text) : List Text :=
  (title.filledLines .fold width).map fun line ↦
    let line := line.trimRight.cut .fold width
    let left := (width - line.width) / 2
    List.replicate left ' ' ++ pad .left (width - left) line

/-- The lines of the table. -/
def lines (t : Table) : List Text :=
  let widths := t.widths
  let columns := t.columns.zip widths
  titleLines (total widths + widths.length + 1) t.title
    ++ [topRule.write widths]
    ++ row '┃' columns (t.columns.map (·.header.toList))
    ++ [headRule.write widths]
    ++ t.rows.flatMap (row '│' columns)
    ++ [bottomRule.write widths]

/-- The table as text, each line ended by a newline. -/
def write (t : Table) : Text := t.lines.flatMap (· ++ ['\n'])

end Table

end TemplateAssist
