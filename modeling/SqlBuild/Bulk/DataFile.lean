import SqlBuild.Bulk.RowStream
import SqlBuild.Files.Tree

/-!
# Data files

A data file is read line by line. A line that cannot be read ends the reading like the end of the
file; whoever reads on gets the lines behind it.
-/

namespace SqlBuild

structure DataFile where
  /-- The lines up to the first one that cannot be read. -/
  lines : List Text
  /-- The lines behind each one that cannot be read, up to the next of them. -/
  behind : List (List Text) := []
  /-- Why reading ends before the end of the file. -/
  failure : Option IoError := none
deriving DecidableEq, Repr

namespace DataFile

/-- The file that holds a text. -/
def ofText (t : Text) : DataFile := { lines := Text.lines t }

/-- Reads the parts between line feeds; the last part is a line when it is not empty. -/
def ofPieces : List Bytes → DataFile
  | [] => { lines := [] }
  | [last] =>
    if last = [] then { lines := [] }
    else
      match Utf8.decode? last with
      | some line => { lines := [line] }
      | none => ⟨[], [[]], some .notUtf8⟩
  | piece :: rest =>
    let file := ofPieces rest
    match Utf8.decode? piece with
    | some line => { file with lines := Text.dropReturn line :: file.lines }
    | none => ⟨[], file.lines :: file.behind, some .notUtf8⟩

def ofBytes (bytes : Bytes) : DataFile := ofPieces (bytes.splitOn 10)

/-- The data file under a name. A directory can be opened, but not read. -/
def find (files : FileTree) (name : Text) : Except IoError DataFile :=
  match files.find name with
  | .error e => .error e
  | .ok .directory => .ok ⟨[], [], some .isDirectory⟩
  | .ok .failing => .ok ⟨[], [], some .failing⟩
  | .ok (.file content _) => .ok (ofBytes content)

/-- The rows on some lines, fitted to the columns; empty lines are passed over. -/
def rowsOn (lines : List Text) (columns : List ColumnInfo) : List Row :=
  (lines.filter (· ≠ [])).map fun line => (Row.ofLine line).coerce columns

/-- The rows of a data file. -/
def stream (file : DataFile) (columns : List ColumnInfo) : RowStream :=
  ⟨rowsOn file.lines columns, file.behind.map (rowsOn · columns)⟩

end DataFile

end SqlBuild
