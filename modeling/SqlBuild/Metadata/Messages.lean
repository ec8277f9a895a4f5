import SqlBuild.Metadata.Plan
import SqlBuild.Text.Digit

/-!
# Messages and required fields

The messages are kept one file to a category, each line a number and a text. The required fields are
kept in one file, each line a table, a column and a description.
-/

namespace SqlBuild

namespace Metadata

/-- The row of a message of a category. -/
def messageRow (category language : Text) (line : Text) : Except Text Row :=
  let (id, text) := Text.firstWord line
  if (Text.signed? 64 id).isNone then .error ("message id '" ++ id ++ "' is not a number")
  else .ok [category, id, language, text]

/-- The messages in the file of a category, which has the category's name. -/
def categoryRows (files : FileTree) (language path : Text) : Except PlanError (List Row) := do
  rowsOf path (← source files path) (messageRow (Path.lastPart path) language)

def messagesPlan (files : FileTree) (setup language : Text) : Except PlanError CompilePlan := do
  let directory := Path.join setup "messages"
  if files.isDirectory directory then do
    let rows ← (files.filesBelow directory).mapM (categoryRows files language)
    return ⟨[⟨"&w_messages&", rows.flatten⟩], "&i_messages_compile&"⟩
  else .error (.missing directory)

/-- The row of a required field. -/
def requiredFieldRow (line : Text) : Except Text Row :=
  match Text.words line with
  | table :: column :: description => .ok [table, column, Text.join " " description]
  | _ => .error "expected '<table> <column> [description]'"

def requiredFieldsPlan (files : FileTree) (setup : Text) : Except PlanError CompilePlan := do
  let path := Path.join setup "required_fields"
  let rows ← rowsOf path (← source files path) requiredFieldRow
  return ⟨[⟨"&w_required_fields&", rows⟩], "&i_required_fields_compile&"⟩

end Metadata

end SqlBuild
