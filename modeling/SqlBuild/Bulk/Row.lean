import SqlBuild.Text.Basic

/-!
# Rows of data files

A data file has one row a line, its fields separated by tabs. A row is fitted to the columns of its
table: fields beyond the last column are joined to it with tabs, missing fields are empty, and an
empty field of a numeric column is zero.
-/

namespace SqlBuild

/-- A column of a table, with the server's name for its type. -/
structure ColumnInfo where
  name : Text
  typeName : Text
deriving DecidableEq, Repr

namespace ColumnInfo

/-- The types of numbers. -/
def numericTypes : List Text :=
  ["int", "integer", "smallint", "tinyint", "bigint", "unsigned int", "unsigned smallint",
    "unsigned bigint", "decimal", "numeric", "float", "real", "double precision", "money",
    "smallmoney", "bit", "intn", "decimaln", "numericn", "floatn", "moneyn"]

def isNumeric (column : ColumnInfo) : Bool := numericTypes.contains (Text.lower column.typeName)

end ColumnInfo

/-- The fields of a row, in the order of the columns. -/
abbrev Row := List Text

namespace Row

/-- The fields on a line; carriage returns and line feeds at its end belong to none. -/
def ofLine (line : Text) : Row :=
  (Text.dropEndWhile (fun c => c == '\r' || c == '\n') line).splitOn '\t'

/-- The line of a row. -/
def toLine (row : Row) : Text := Text.join "\t" row

/-- As many fields as `count`: the last takes the extra ones, empty ones make up for those that
are missing. -/
def fit (count : Nat) (row : Row) : Row :=
  if row.length ≤ count then row ++ List.replicate (count - row.length) []
  else if count = 0 then []
  else row.take (count - 1) ++ [Row.toLine (row.drop (count - 1))]

/-- An empty field of a numeric column becomes zero. -/
def fill (field : Text) (column : ColumnInfo) : Text :=
  if field = [] ∧ column.isNumeric then "0" else field

/-- The row as it is loaded into a table with these columns. -/
def coerce (columns : List ColumnInfo) (row : Row) : Row :=
  List.zipWith fill (row.fit columns.length) columns

end Row

end SqlBuild
