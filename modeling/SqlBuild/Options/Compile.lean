import SqlBuild.Options.Source

/-!
# Merging option sources into a dictionary

The dictionary of an environment comes from assignments in a fixed order, each overriding what an
earlier one gave to the same placeholder: the platform switches, the directives of the default, the
company and the profile file, the company and language of the environment, and last the table
mappings, each resolved through everything before it. Dynamic directives are left to the server.
-/

namespace SqlBuild

namespace Dictionary

/-- What a directive of an option file assigns. -/
def merge (d : Dictionary) : Directive → Dictionary
  | .value name content _ false => d.insert (placeholder name) content
  | .conditional name enabled _ false => d.insertConditional name enabled
  | _ => d

/-- What is said about a directive whose names do not fit. -/
def mergeWarnings : Directive → List Text
  | .value name _ _ false => insertWarnings (placeholder name)
  | .conditional name _ _ false => conditionalWarnings name
  | _ => []

/-- The placeholder for the database of a table. -/
def databasePlaceholder (table : Text) : Text := "&db-" ++ table ++ "&"

/-- What a table mapping on line `line` assigns: the table's qualified name and its database. -/
def mapTable (d : Dictionary) (line : Nat) (table database : Text) : Noted Dictionary :=
  let resolved := d.resolve database
  ⟨(d.insert (placeholder table) (resolved ++ ".." ++ table)).insert
      (databasePlaceholder table) resolved,
    (if '&' ∈ resolved then
      ["table_locations:" ++ Text.ofNat line ++ ": '" ++ database ++
        "' does not resolve for table '" ++ table ++ "'."]
    else []) ++ insertWarnings (placeholder table) ++ insertWarnings (databasePlaceholder table)⟩

/-- Only table mappings count in the source of the mappings. -/
def mergeMapping (d : Dictionary) (source : SourceDirective) : Noted Dictionary :=
  match source.directive with
  | .table table database _ => d.mapTable source.line table database
  | _ => pure d

/-- The switches that tell the platforms apart. -/
def ofPlatform (platform : Platform) : Dictionary :=
  (({} : Dictionary).insertConditional "mssql" (platform = .mssql)).insertConditional "sybase"
    (platform = .sybase)

/-- Merges the file of a tier, if there is one. Only a missing profile file is worth a word. -/
def mergeTier (tree : FileTree) (env : Environment) (d : Dictionary) (tier : Tier) :
    Reading Dictionary :=
  let path := env.tierFile tier
  if tree.isFile path then do
    let sources ← SourceDirective.ofFile tree path
    let directives := sources.map (·.directive)
    liftM (⟨directives.foldl merge d, directives.flatMap mergeWarnings⟩ : Noted Dictionary)
  else
    liftM (⟨d, if tier = .profile then
      ["Profile option file '" ++ path ++ "' not found; using company options only."]
      else []⟩ : Noted Dictionary)

/-- The placeholders taken from the environment itself. -/
def mergeEnvironment (env : Environment) (d : Dictionary) : Dictionary :=
  (d.insert "&cmpy&" env.company).insert "&lang&" env.language

/-- The dictionary of an environment. -/
def compile (tree : FileTree) (env : Environment) : Reading Dictionary := do
  let options ← Tier.all.foldlM (mergeTier tree env) (ofPlatform env.platform)
  let sources ← SourceDirective.ofFile tree env.tableLocationsFile
  liftM (sources.foldlM mergeMapping (mergeEnvironment env options) : Noted Dictionary)

end Dictionary

end SqlBuild
