import SqlBuild.Metadata.Plan
import SqlBuild.Options.OptionSet

/-!
# Options and table locations as metadata

The server keeps every directive of every option file, dynamic ones included, with the tier it comes
from; and every table mapping with the database its placeholder stands for.
-/

namespace SqlBuild

namespace Metadata

/-- The row of a directive; table mappings have none here. -/
def optionRow? (tier : Tier) (directive : Directive) : Option Row :=
  match directive with
  | .value name content description _ =>
    some [name, directive.kindCode, content, description, tier.label]
  | .conditional name enabled description _ =>
    some [name, directive.kindCode, if enabled then "+" else "-", description, tier.label]
  | .table .. => none

/-- The directives of an option source, as content of a plan. -/
def directives (files : FileTree) (path : Text) : Planning (List Directive) := do
  match ← liftM (SourceDirective.ofFile files path).run with
  | .ok sources => return sources.map (·.directive)
  | .error e => throw (.unreadable path e.message)

/-- The rows of the option file of a tier, if there is one. -/
def tierRows (files : FileTree) (env : Environment) (tier : Tier) : Planning (List Row) := do
  let path := env.tierFile tier
  if files.isFile path then return (← directives files path).filterMap (optionRow? tier)
  else return []

def optionsPlan (files : FileTree) (env : Environment) : Planning CompilePlan := do
  if files.isFile (env.tierFile .company) then
    let rows ← Tier.all.mapM (tierRows files env)
    return ⟨[⟨"&w_options&", rows.flatten⟩], "&i_options_compile&"⟩
  else throw (.missing (env.tierFile .company))

/-- The row of a table mapping; `resolve` replaces placeholders. -/
def locationRow? (resolve : Text → Text) : Directive → Option Row
  | .table table database description => some [table, database, resolve database, description]
  | _ => none

def tableLocationsPlan (files : FileTree) (env : Environment) (resolve : Text → Text) :
    Planning CompilePlan := do
  let path := env.tableLocationsFile
  if files.isFile path then
    let rows := (← directives files path).filterMap (locationRow? resolve)
    return ⟨[⟨"&w_table_locations&", rows⟩], "&i_table_locations_compile&"⟩
  else throw (.missing path)

end Metadata

end SqlBuild
