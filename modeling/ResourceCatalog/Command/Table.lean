import ResourceCatalog.Text.CellWidth

/-!
# Tables

Rows of cells between rules. A cell may have several lines; a column is as wide as its widest line, and a
row as high as its highest cell.
-/

namespace ResourceCatalog.Command

abbrev Line := List Char

/-- The lines of a text, at least one. -/
def linesOf : List Char → List Line
  | [] => [[]]
  | c :: rest =>
    if c = '\n' then [] :: linesOf rest
    else
      match linesOf rest with
      | line :: lines => (c :: line) :: lines
      | [] => [[c]]

/-- A row of cells, each with its lines. -/
abbrev Row := List (List Line)

def rowOf (texts : List String) : Row := texts.map fun s => linesOf s.toList

/-- The width of a cell. -/
def cellWidth (lines : List Line) : Nat := (lines.map Text.cells).foldl max 0

/-- The widths of the columns of some rows. -/
def columnWidths : List Row → List Nat
  | [] => []
  | [row] => row.map cellWidth
  | row :: rows => List.zipWith max (row.map cellWidth) (columnWidths rows)

/-- Fills a line up with blanks. -/
def fill (width : Nat) (line : Line) : Line := line ++ List.replicate (width - Text.cells line) ' '

/-- The rule above and below a row. -/
def rule (widths : List Nat) : Line := '+' :: widths.flatMap fun w => List.replicate (w + 2) '-' ++ ['+']

/-- One line of a row. -/
def rowLine (widths : List Nat) (row : Row) (index : Nat) : Line :=
  '|' :: (List.zipWith (fun w lines => ' ' :: fill w ((lines[index]?).getD []) ++ [' ', '|']) widths row).flatten

def rowHeight (row : Row) : Nat := (row.map List.length).foldl max 0

def rowLines (widths : List Nat) (row : Row) : List Line :=
  (List.range (rowHeight row)).map (rowLine widths row)

/-- The lines of a table. -/
def tableLines (rows : List Row) : List Line :=
  let widths := columnWidths rows
  rule widths :: rows.flatMap fun row => rowLines widths row ++ [rule widths]

/-- The text of a table, without an end of its last line. -/
def tableText (rows : List (List String)) : String :=
  String.ofList (List.intercalate ['\n'] (tableLines (rows.map rowOf)))

end ResourceCatalog.Command
