import ClusterConsole.Text.Line
import ClusterConsole.Text.Width

/-!
# Tables

A table has a rule above and below each row, and each column is as wide as the
widest line of its cells.  A cell with several lines makes its row as high.
-/

namespace ClusterConsole

/-- A table with a row of titles. -/
structure Table where
  titles : List String
  rows : List (List String)
deriving DecidableEq, Repr

namespace Table

def cellLines (cell : String) : List (List Char) :=
  Text.segments cell.toList

def cellWidth (cell : String) : Nat :=
  ((cellLines cell).map Text.width).foldl max 0

/-- The width of each column, so far as there is a title for it. -/
def columnWidths (table : Table) : List Nat :=
  table.rows.foldl (fun widths row =>
    List.zipWith (fun width cell => max width (cellWidth cell))
    widths row) (table.titles.map cellWidth)

/-- The rule between rows. -/
def rule (widths : List Nat) : List Char :=
  '+' :: widths.flatMap fun width => List.replicate (width + 2) '-' ++ ['+']

/-- One line of a cell, filled up to the width of its column. -/
def padded (width : Nat) (line : List Char) : List Char :=
  ' ' :: line ++ List.replicate (width - Text.width line) ' ' ++ [' ', '|']

/-- The line of a row at a height; a cell that is lower is blank there. -/
def rowLine (widths : List Nat)
    (cells : List (List (List Char))) (height : Nat) : List Char :=
  '|' :: (List.zipWith
      (fun width cell => padded width (cell[height]?.getD [])) widths
    cells).flatten

def rowLines (widths : List Nat) (row : List String) : List (List Char) :=
  let cells := row.map cellLines
  let height := (cells.map List.length).foldl max 1
  (List.range height).map (rowLine widths cells)

def lines (table : Table) : List (List Char) :=
  let widths := table.columnWidths
  rule widths :: (table.titles :: table.rows).flatMap fun row =>
    rowLines widths row ++ [rule widths]

/-- A table as a text. -/
def text (table : Table) : String :=
  "\n".intercalate (table.lines.map String.ofList)

end Table

end ClusterConsole
