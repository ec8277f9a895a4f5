import SqlBuild.Text.Basic

/-!
# Qualified table names

A table may be given with its database in front: the part before the first dot, unless that is
empty. The dots right behind it belong to neither.
-/

namespace SqlBuild

namespace TableName

/-- The database, if the name has one, and the rest of the name. -/
def split (table : Text) : Option Text × Text :=
  let database := table.takeWhile (· ≠ '.')
  if '.' ∈ table ∧ database ≠ [] then
    (some database, (table.drop database.length).dropWhile (· == '.'))
  else (none, table)

/-- The database a name is qualified with. -/
def database? (table : Text) : Option Text := (split table).1

/-- The name seen from a session in `database`: a bare name gets it in front. -/
def qualify (database : Option Text) (table : Text) : Text :=
  match database? table, database with
  | none, some database => database ++ ".." ++ table
  | _, _ => table

end TableName

end SqlBuild
