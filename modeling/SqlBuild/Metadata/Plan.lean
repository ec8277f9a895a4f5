import SqlBuild.Bulk.Row
import SqlBuild.Files.Tree
import SqlBuild.Noted

/-!
# Plans of the metadata compilers

A metadata compiler turns flat files of the setup directory into rows for work tables of the server
and has a procedure of the server compile them. Its plan is what it loads, table by table, and the
procedure it calls in the end. Blank lines and lines that start with `#` are no content of a source,
but count when lines are numbered.
-/

namespace SqlBuild

/-- Why a compiler has no plan. -/
inductive PlanError
  | missing (path : Text)
  | unreadable (path reason : Text)
  | malformed (path : Text) (line : Nat) (reason : Text)
deriving DecidableEq, Repr

def PlanError.message : PlanError → Text
  | missing path => "Compiler source not found: '" ++ path ++ "'"
  | unreadable path reason =>
    "Failed to read compiler source '" ++ path ++ "': " ++ reason
  | malformed path line reason => path ++ ":" ++ Text.ofNat line ++ ": " ++ reason

/-- The rows for one work table, named by its placeholder. -/
structure WorkTable where
  table : Text
  rows : List Row
deriving DecidableEq, Repr

structure CompilePlan where
  loads : List WorkTable
  /-- The placeholder of the procedure. -/
  procedure : Text
deriving DecidableEq, Repr

/-- Making a plan may fail, and gives warnings either way. -/
abbrev Planning := ExceptT PlanError Noted

namespace Metadata

/-- The lines of a source that are content, without the white space at their ends, numbered. -/
def contentLines (content : Text) : List (Nat × Text) :=
  ((Text.lines content).zipIdx.map fun (line, n) => (n + 1, Text.trimEnd line)).filter
    fun (_, line) =>
      Text.trimStart line ≠ [] && !Text.startsWith (Text.trimStart line) "#"

/-- The content of a source that has to exist. -/
def source (files : FileTree) (path : Text) : Except PlanError Text :=
  if files.isFile path then
    match files.readLossy path with
    | .ok content => .ok content
    | .error cause => .error (.unreadable path cause.message)
  else .error (.missing path)

/-- The characters of a line from `first` up to `last`, or to the end of the line, trimmed. -/
def column (line : Text) (first : Nat) (last : Option Nat) : Text :=
  let rest := line.drop first
  Text.trim (match last with
    | some last => rest.take (last - first)
    | none => rest)

/-- Reads the content lines of a source as rows; the first line that is none is the error. -/
def rowsOf (path content : Text) (row : Text → Except Text Row) : Except PlanError (List Row) :=
  (contentLines content).mapM fun (number, line) =>
    (row line).mapError fun reason => .malformed path number reason

end Metadata

end SqlBuild
