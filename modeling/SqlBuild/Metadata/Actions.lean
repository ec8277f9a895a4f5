import SqlBuild.Metadata.Plan
import SqlBuild.Text.Digit

/-!
# Actions

Two sources in fixed columns: the actions (name up to column 40, type up to 50, description) and
their details (name up to column 40, sequence number up to 46, target up to 86, parameters).
-/

namespace SqlBuild

namespace Metadata

/-- The row of an action. -/
def actionRow (line : Text) : Except Text Row :=
  let action := column line 0 (some 40)
  if action = [] then .error "action name is empty"
  else .ok [action, column line 40 (some 50), column line 50 none]

/-- The row of a detail of an action. -/
def detailRow (line : Text) : Except Text Row :=
  let action := column line 0 (some 40)
  let sequence := column line 40 (some 46)
  if action = [] then .error "action name is empty"
  else if (Text.unsigned? 32 sequence).isNone then
    .error ("sequence '" ++ sequence ++ "' is not a number")
  else .ok [action, sequence, column line 46 (some 86), column line 86 none]

/-- Reads a whole source with one of the row readers. -/
def fixedRows (files : FileTree) (path : Text) (row : Text → Except Text Row) :
    Except PlanError (List Row) := do
  rowsOf path (← source files path) row

def actionsPlan (files : FileTree) (setup : Text) : Except PlanError CompilePlan := do
  let actions ← fixedRows files (Path.join setup "actions") actionRow
  let details ← fixedRows files (Path.join setup "actions_dtl") detailRow
  return ⟨[⟨"&w_actions&", actions⟩, ⟨"&w_actions_dtl&", details⟩], "&i_actions_compile&"⟩

end Metadata

end SqlBuild
