import SqlBuild.BuildScript.UpgradeName
import SqlBuild.Run.Batch
import SqlBuild.Text.Letter

/-!
# Lines of upgrade files

An upgrade file is SQL with lines of its own between: `use` changes the database, `runsql ... !`
runs a script, `sp_renametoold` is a statement on its own, and `exit` or `quit` ends the file. The
words are found in any case.
-/

namespace SqlBuild

inductive UpgradeLine
  | exit
  | use (database : Text)
  /-- A script command, without the mark at its end. -/
  | embedded (command : Text)
  | rename
  | terminator
  | sql
deriving DecidableEq, Repr

namespace UpgradeLine

/-- The database of a `use` line: one word without a semicolon, which may follow it. -/
def useDatabase? (line : Text) : Option Text := do
  let rest ← UpgradeName.afterWord? "use" (Text.trimStart line)
  let name := (Text.trim rest).takeWhile fun c => !isBlank c && c != ';'
  let tail := Text.trim ((Text.trim rest).drop name.length)
  if rest.head?.any isBlank ∧ name ≠ [] ∧ (tail = [] ∨ tail = ";") then some name else none

/-- The command of a line `runsql ... !`. -/
def embedded? (line : Text) : Option Text :=
  match (Text.trim line).reverse with
  | '!' :: reversed =>
    let command := reversed.reverse
    match UpgradeName.afterWord? "runsql" command with
    | some (c :: _) => if isBlank c then some command else none
    | _ => none
  | _ => none

/-- Whether a line starts with the word `sp_renametoold`. -/
def isRename (line : Text) : Bool :=
  match UpgradeName.afterWord? "sp_renametoold" (Text.trimStart line) with
  | some rest => !rest.head?.any isWordChar
  | none => false

/-- What a line of an upgrade file is. -/
def ofLine (line : Text) : UpgradeLine :=
  if Batch.isExit line then exit
  else
    match useDatabase? line with
    | some database => use database
    | none =>
      match embedded? line with
      | some command => embedded command
      | none =>
        if isRename line then rename
        else if Batch.isTerminator line then terminator
        else sql

end UpgradeLine

end SqlBuild
