import ElementBindings.Console.Layout

/-
  Tables of plain text.

  A column is as wide as its widest cell and two blanks behind
  it, the last one too.  Columns that are too wide together are
  narrowed to the width of the console, the widest ones first.
  Cells may hold tags, which take no room but divide a line
  into pieces that are measured one by one.  A row is as high
  as its highest cell; a heading is a word, which is one line
  high.

  Key definitions include:
    * `Column`, `PrintedColumn`
    * `PrintedColumn.showCell`
    * `fitWidths`
    * `Table.sideBySide`, `Table.row`, `Table.render`
-/

namespace ElementBindings

------------------------------------------------------------
-- Pieces of Cells
------------------------------------------------------------

/- The positions at which a covered part begins or ends. -/
def Markup.Printed.edges
    (printed : Printed) : List Nat :=
  printed.spans.flatMap fun span => [span.start, span.stop]

/- The pieces of a text between some positions. -/
def piecesBetween
    (edges : List Nat) :
    Nat →
    List Char →
    List (List Char)
  | _, [] => []
  | position, c :: rest =>
      let pieces := piecesBetween edges (position + 1) rest
      match pieces with
      | [] => [[c]]
      | piece :: more =>
          if edges.contains (position + 1) then
            [c] :: pieces
          else
            (c :: piece) :: more

/- The start of some pieces that fits into some cells. -/
def cutPieces : Nat → List (List Char) → List Char
  | _, [] => []
  | width, piece :: rest =>
      let size := Text.cells piece
      if size < width then
        piece ++ cutPieces (width - size) rest
      else
        Markup.cutTo width piece

/- Fill pieces up with blanks, or cut them, to some cells. -/
def fillPieces
    (width : Nat)
    (pieces : List (List Char)) : List Char :=
  let size := pieces.foldl (fun n piece => n + Text.cells piece) 0
  if size ≤ width then
    pieces.flatten ++ List.replicate (width - size) ' '
  else
    cutPieces width pieces

------------------------------------------------------------
-- Columns
------------------------------------------------------------

/- A column with its heading and its cells. -/
structure Column where
  heading : String
  alignedRight : Bool
  cells : List String
deriving DecidableEq, Repr

/- A column whose cells have been read, with its width. -/
structure PrintedColumn where
  alignedRight : Bool
  width : Nat
  cells : List Markup.Printed
deriving DecidableEq, Repr

/- The number of cells that the widest line of a text fills. -/
def widthOf
    (text : List Char) : Nat :=
  ((Text.splitLines text).map Text.cells).foldl max 0

namespace PrintedColumn

/- The blanks behind every line of a column. -/
def gap : List Char :=
  [' ', ' ']

/- A column with another width. -/
def ofWidth
    (column : PrintedColumn)
    (width : Nat) : PrintedColumn :=
  { column with width := width }

end PrintedColumn

/-
  Read the cells of a column, its heading first.  Where the
  console has room for no more than the blanks behind a cell,
  the cells are not read.
-/
def Column.printed
    (console : Console)
    (column : Column) : Except Fault PrintedColumn :=
  let gap := PrintedColumn.gap.length
  if console.width ≤ gap then
    return ⟨column.alignedRight, console.width, []⟩
  else do
    let cells ←
      (column.heading :: column.cells).mapM
        (Markup.read console)
    let sizes := cells.map fun cell => widthOf cell.text
    let width := min (sizes.foldl max 0 + gap) console.width
    return ⟨column.alignedRight, width, cells⟩

/-
  The lines of a cell, with blanks behind them; there are none
  where a column has room for nothing but the blanks.
-/
def PrintedColumn.showCell
    (column : PrintedColumn)
    (cell : Markup.Printed) :
    Except Fault (List (List Char)) :=
  let width := column.width - gap.length
  if width = 0 then
    return []
  else do
    let lines := cell.linesIn width column.alignedRight
    lines.forM Markup.Printed.check
    return lines.map fun line =>
      fillPieces width (piecesBetween line.edges 0 line.text)
        ++ gap

------------------------------------------------------------
-- Widths
------------------------------------------------------------

/- A quotient, rounded to the nearest or else to an even one. -/
def roundedQuotient
    (n d : Nat) : Nat :=
  let quotient := n / d
  let rest := n % d
  if d < 2 * rest || (2 * rest = d && quotient % 2 = 1) then
    quotient + 1
  else
    quotient

/-
  Narrow all columns of one width to share an excess, none of
  them by more than a bound, given how many of them are left.
-/
def narrow
    (widest bound : Nat) :
    Nat →
    Nat →
    List Nat →
    List Nat
  | _, _, [] => []
  | excess, count, width :: rest =>
      if width = widest then
        let part := min bound (roundedQuotient excess count)
        (width - part)
          :: narrow widest bound (excess - part) (count - 1) rest
      else
        width :: narrow widest bound excess count rest

/- The width of columns side by side. -/
def totalWidth : List Nat → Nat
  | [] => 0
  | width :: rest => width + totalWidth rest

/-
  Narrow columns to some cells, the widest ones first, and
  those at most to the width of the next ones at a time.
-/
def fitWidthsFrom
    (limit : Nat) :
    Nat →
    List Nat →
    List Nat
  | 0, widths => widths
  | steps + 1, widths =>
      let excess := totalWidth widths - limit
      if excess = 0 then
        widths
      else
        let widest := widths.foldl max 0
        let next := (widths.filter (· ≠ widest)).foldl max 0
        fitWidthsFrom limit steps
          (narrow widest (min excess (widest - next)) excess
            (widths.count widest) widths)

/- Narrow columns to some cells; each step takes one cell off. -/
def fitWidths
    (limit : Nat)
    (widths : List Nat) : List Nat :=
  fitWidthsFrom limit (totalWidth widths) widths

------------------------------------------------------------
-- Tables
------------------------------------------------------------

namespace Table

/-
  Cells side by side, given the widths of their columns and
  the lines of each.  There is one line at least.
-/
def sideBySide
    (widths : List Nat)
    (cells : List (List (List Char))) : String :=
  let height := (cells.map List.length).foldl max 1
  let lineOf (index width : Nat) (lines : List (List Char)) :
      List Char :=
    lines.getD index (List.replicate width ' ')
  String.ofList ((List.range height).flatMap fun index =>
    (widths.zipWith (lineOf index) cells).flatten ++ ['\n'])

/- A row of columns that stand side by side. -/
def row
    (columns : List PrintedColumn)
    (index : Nat) : Except Fault String := do
  let cells ← columns.mapM fun column =>
    column.showCell (column.cells.getD index (.blank 0))
  return sideBySide (columns.map (·.width)) cells

/- Columns that are narrowed to some cells. -/
def fit
    (limit : Nat)
    (columns : List PrintedColumn) : List PrintedColumn :=
  columns.zipWith PrintedColumn.ofWidth
    (fitWidths limit (columns.map (·.width)))

/-
  Columns of one height, row by row.  The tags of all cells are
  read, column by column, before the first row is shown.
-/
def render
    (console : Console)
    (height : Nat)
    (columns : List Column) : Except Fault String := do
  let printed ← columns.mapM (Column.printed console)
  let fitted := fit console.width printed
  let rows ← (List.range (height + 1)).mapM (row fitted)
  return Text.joinWith "" rows

end Table

end ElementBindings
