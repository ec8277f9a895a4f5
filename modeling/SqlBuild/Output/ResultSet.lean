import SqlBuild.Bulk.Row
import SqlBuild.Text.Digit

/-!
# Result sets as text

A result set is shown as a table: the headers, a line of dashes, a line for every row, and after an
empty line the number of rows. A column is as wide as its widest text and never narrower than ten
characters; numbers stand at the right of their column, everything else at the left. Blanks at the
end of a line are dropped, but not those of the dashes.
-/

namespace SqlBuild

/-- The header of a column, and whether its cells are numbers. -/
structure Header where
  name : Text
  numeric : Bool
deriving DecidableEq, Repr

structure ResultSet where
  headers : List Header
  /-- The cells of a row; missing ones at its end are shown empty. -/
  rows : List Row := []
deriving DecidableEq, Repr

/-- The last line of a table. -/
def rowsAffected (count : Nat) : Text :=
  if count = 1 then "(1 row affected)" else "(" ++ Text.ofNat count ++ " rows affected)"

namespace ResultSet

/-- The width no column falls below. -/
def minWidth : Nat := 10

/-- The widths of the cells in column `i`. -/
def cellWidths (set : ResultSet) (i : Nat) : List Nat :=
  set.rows.filterMap fun row => row[i]?.map List.length

/-- The width of column `i`. -/
def width (set : ResultSet) (header : Header) (i : Nat) : Nat :=
  (set.cellWidths i).foldl max (max header.name.length minWidth)

/-- The columns with their widths. -/
def layout (set : ResultSet) : List (Header × Nat) :=
  set.headers.zipIdx.map fun (header, i) => (header, set.width header i)

/-- A text in its column. -/
def align (column : Header × Nat) (cell : Text) : Text :=
  if column.1.numeric then Text.padStart column.2 cell else Text.padEnd column.2 cell

/-- The line of some cells; a cell that is missing is empty. -/
def line (layout : List (Header × Nat)) (row : Row) : Text :=
  Text.trimEnd (Text.join " "
    (layout.zipIdx.map fun (column, i) => align column (row[i]?.getD [])))

/-- The line below the headers. -/
def dashes (layout : List (Header × Nat)) : Text :=
  Text.join " " (layout.map fun column => List.replicate column.2 '-')

/-- The table as text. -/
def render (set : ResultSet) : Text :=
  Text.unlines ([line set.layout (set.headers.map (·.name)), dashes set.layout] ++
    set.rows.map (line set.layout) ++ [[], rowsAffected set.rows.length])

end ResultSet

end SqlBuild
