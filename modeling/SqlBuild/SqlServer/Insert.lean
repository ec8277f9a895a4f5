import SqlBuild.Bulk.RowStream

/-!
# Statements that insert rows

Rows are loaded by statements with up to a thousand rows each. Every field is a literal between
quotes, in which a quote is written twice; the server turns it into the type of its column.
-/

namespace SqlBuild

namespace SqlServer

namespace Insert

/-- The rows of one statement. -/
def rowsPerStatement : Nat := 1000

def literal (field : Text) : Text := "'" ++ Text.doubleQuotes field ++ "'"

/-- A row as a list of literals. -/
def tuple (row : Row) : Text := "(" ++ Text.join ", " (row.map literal) ++ ")"

/-- The list of the columns of a table. -/
def columnList (columns : List ColumnInfo) : Text :=
  Text.join ", " (columns.map fun column => "[" ++ column.name ++ "]")

/-- What stands in front of the rows. -/
def heading (table columns : Text) : Text :=
  "insert into " ++ table ++ " (" ++ columns ++ ") values\n"

/-- The statement for some rows. -/
def statement (table columns : Text) (rows : List Row) : Text :=
  heading table columns ++ Text.join ",\n" (rows.map tuple)

/-- The next statement, the number of its rows, and what is left after it; none when no row could be
drawn. -/
def next? (table columns : Text) (stream : RowStream) : Option ((Text × Nat) × RowStream) :=
  let drawn := stream.draw rowsPerStatement
  if drawn.1 = [] then none
  else some ((statement table columns drawn.1, drawn.1.length), drawn.2)

theorem size_lt_of_next? {table columns : Text} {stream rest : RowStream} {part : Text × Nat}
    (h : next? table columns stream = some (part, rest)) : rest.size < stream.size := by
  by_cases hrows : (stream.draw rowsPerStatement).1 = []
  · simp [next?, hrows] at h
  · simp only [next?, hrows, if_false, Option.some.injEq, Prod.mk.injEq] at h
    exact h.2 ▸ RowStream.size_draw_lt hrows

/-- All statements for some rows, each with the number of its rows. -/
def statements (table columns : Text) (stream : RowStream) : List (Text × Nat) :=
  match _h : next? table columns stream with
  | none => []
  | some (part, rest) => part :: statements table columns rest
termination_by stream.size
decreasing_by exact size_lt_of_next? _h

end Insert

end SqlServer

end SqlBuild
