import BrowserLab.Text.Search
import BrowserLab.Text.Width

/-!
# Tables

A table is drawn with lines around its cells.  A cell may have several lines of text; a column is as
wide as its widest line and one blank on either side.
-/

namespace BrowserLab

/-- A head and rows of cells. -/
structure Table where
  header : List String
  rows : List (List String)

namespace Table

/-- The characters of a horizontal line: its left end, its stroke, its crossings, its right end. -/
structure Rule where
  left : Char
  stroke : Char
  crossing : Char
  right : Char

def topRule : Rule := ⟨'┌', '─', '┬', '┐'⟩

def headerRule : Rule := ⟨'╞', '═', '╪', '╡'⟩

def rowRule : Rule := ⟨'├', '╌', '┼', '┤'⟩

def bottomRule : Rule := ⟨'└', '─', '┴', '┘'⟩

/-- The lines of a cell. -/
def cellLines (cell : String) : List String :=
  (Text.split ['\n'] cell.toList).map String.ofList

/-- How wide a cell is. -/
def cellWidth (cell : String) : Nat := ((cellLines cell).map Text.width).foldl max 0

/-- How wide the columns are. -/
def widths (t : Table) : List Nat :=
  t.rows.foldl (fun ws row => List.zipWith max ws (row.map cellWidth)) (t.header.map cellWidth)

/-- A horizontal line. -/
def Rule.text (r : Rule) (widths : List Nat) : String :=
  let strokes := widths.map fun w => "".pushn r.stroke (w + 2)
  r.left.toString ++ r.crossing.toString.intercalate strokes ++ r.right.toString

/-- A text with blanks around it, as wide as its column. -/
def paddedCell (width : Nat) (text : String) : String :=
  (" " ++ text).pushn ' ' (width - Text.width text + 1)

/-- One line of a row. -/
def lineText (widths : List Nat) (texts : List String) : String :=
  "│" ++ "┆".intercalate (List.zipWith paddedCell widths texts) ++ "│"

/-- The lines of a row. -/
def rowLines (widths : List Nat) (row : List String) : List String :=
  let cells := row.map cellLines
  let height := (cells.map List.length).foldl max 0
  (List.range height).map fun i => lineText widths (cells.map fun lines => lines.getD i "")

/-- The lines of a table. -/
def lines (t : Table) : List String :=
  let ws := t.widths
  let body := [rowRule.text ws].intercalate (t.rows.map (rowLines ws))
  [topRule.text ws] ++ rowLines ws t.header ++ [headerRule.text ws] ++ body ++
    [bottomRule.text ws]

/-- The drawing of a table, without a line break at its end. -/
def text (t : Table) : String := "\n".intercalate t.lines

end Table

end BrowserLab
