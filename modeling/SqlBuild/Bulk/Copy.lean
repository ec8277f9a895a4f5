import SqlBuild.Bulk.DataFile
import SqlBuild.Run.Session

/-!
# Bulk copies

Rows move between a table and a data file. A load fits the rows of the file to the columns of the
table; an unload writes the rows as they come, one a line.
-/

namespace SqlBuild

/-- The direction of a transfer, seen from the table. -/
inductive BulkDirection
  | into
  | out
deriving DecidableEq, Repr

namespace BulkDirection

/-- A direction by its name in any case; any other name is given back in lower case. -/
def ofName? (text : Text) : Except Text BulkDirection :=
  let asked := Text.lower text
  if asked = "in" then .ok into else if asked = "out" then .ok out else .error asked

/-- The complaint about a name that is no direction. -/
def unknown (asked : Text) : Text :=
  "Unknown bulk direction '" ++ asked ++ "'. Expected 'in' or 'out'."

end BulkDirection

namespace Bulk

/-- The number of rows after which progress is reported again. -/
def interval : Nat := 1000

/-- The counts reported while `moved` rows are handed over. -/
def progress (moved : Nat) : List Nat :=
  (List.range (moved / interval)).map fun n => interval * (n + 1)

/-- The complaint about a table without columns. -/
def noColumns (table : Text) : Text :=
  "Table '" ++ table ++ "' does not exist or has no columns."

/-- Loads the rows of a data file. A failure to read the file counts once the rows before it are
loaded. -/
def load (table : Text) (file : Except IoError DataFile) : Run Transfer := do
  match ← (Exec.columns table).run with
  | .error e => return ⟨0, .error e⟩
  | .ok columns =>
    if columns = [] then return ⟨0, .error (.server (noColumns table))⟩
    else
      match file with
      | .error e => return ⟨0, .error (.io e)⟩
      | .ok file =>
        let transfer ← (Run.act (.load table columns (file.stream columns)) : Run Transfer)
        match transfer.result, file.failure with
        | .ok _, some e => return ⟨transfer.moved, .error (.io e)⟩
        | _, _ => return transfer

/-- Unloads a table into a file, which is made before the first row is asked for. -/
def unload (files : FileTree) (now : Int) (table path : Text) : Run (FileTree × Transfer) := do
  match files.write path [] now with
  | .error e => return (files, ⟨0, .error (.io e)⟩)
  | .ok created =>
    let arrived ← (Run.act (.unload table) : Run Unloaded)
    let content := Utf8.encode (Text.unlines (arrived.rows.map Row.toLine))
    return ((created.write path content now).toOption.getD created,
      ⟨arrived.rows.length, arrived.result⟩)

/-- Moves rows between a table and a data file; what became of the files, and of the rows. -/
def copy (files : FileTree) (now : Int) (table : Text) (direction : BulkDirection) (path : Text) :
    Run (FileTree × Transfer) :=
  match direction with
  | .into => return (files, ← load table (DataFile.find files path))
  | .out => unload files now table path

end Bulk

end SqlBuild
