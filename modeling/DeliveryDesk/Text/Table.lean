import DeliveryDesk.Text.Blank
import DeliveryDesk.Unicode.Width

/-!
# Tables

A table has a header and rows of text cells, drawn with rules above the header, below it and
below every row. A column is as wide as its widest line. A cell with line breaks takes as many
lines as it has, and the other cells of its row are filled up with blank lines.
-/

namespace DeliveryDesk.Text

open Unicode

/-- The lines of a cell. A line break at the end begins an empty last line. -/
def cellLines (s : String) : List (List Char) := splitAt '\n' s.toList

/-- The width of the widest line of a cell. -/
def cellWidth (s : String) : Nat := ((cellLines s).map lineWidth).foldl max 0

/-- A line filled up with spaces to a width. -/
def padRight (width : Nat) (line : List Char) : List Char :=
  line ++ List.replicate (width - lineWidth line) ' '

/-- The widths of the columns: the widest cell of each. -/
def columnWidths : List (List String) → List Nat
  | [] => []
  | row :: rows =>
    rows.foldl (fun ws r => List.zipWith max ws (r.map cellWidth)) (row.map cellWidth)

/-- A horizontal rule. -/
def rule (widths : List Nat) : List Char :=
  '+' :: widths.flatMap fun w => List.replicate (w + 2) '-' ++ ['+']

/-- One line of a row, given the line of every cell. -/
def rowLine (widths : List Nat) (lines : List (List Char)) : List Char :=
  '|' :: (List.zipWith (fun w l => ' ' :: padRight w l ++ [' ', '|']) widths lines).flatten

/-- The lines of a row. -/
def rowLines (widths : List Nat) (row : List String) : List (List Char) :=
  let cells := row.map cellLines
  let height := (cells.map List.length).foldl max 0
  (List.range height).map fun i => rowLine widths (cells.map fun c => c.getD i [])

/-- A table with a header and rows. -/
def drawTable (header : List String) (rows : List (List String)) : String :=
  let widths := columnWidths (header :: rows)
  let body := (header :: rows).flatMap fun row => rowLines widths row ++ [rule widths]
  String.ofList (['\n'].intercalate (rule widths :: body))

end DeliveryDesk.Text
