import SqlBuild.Options.Cache
import SqlBuild.Options.Compile

/-!
# Option sets

The option set of an environment holds its dictionary once it is built. Building takes the stored
artifact when it is fresh and readable, and compiles the sources otherwise. The company's file and
the table mappings have to exist in both cases. A store that does not work costs a warning, never
the build; a build that fails leaves the set and the store as they were.
-/

namespace SqlBuild

structure OptionSet where
  env : Environment
  /-- The age in seconds up to which an artifact may be used. -/
  maxAge : Nat
  dictionary : Option Dictionary := none
deriving Repr

/-- The token that stands for the current value of a sequence. -/
def sequenceToken : Text := "@sequence@"

namespace OptionSet

def isBuilt (set : OptionSet) : Bool := set.dictionary.isSome

/-- The text with its placeholders replaced; an unbuilt set changes nothing. -/
def resolveWord (set : OptionSet) (t : Text) : Text :=
  match set.dictionary with
  | some d => d.resolve t
  | none => t

/-- Replaces the sequence token when there is a value for it, then the placeholders. -/
def resolve (set : OptionSet) (t : Text) (sequence : Option Int) : Text :=
  match sequence with
  | some n => set.resolveWord (Text.replace sequenceToken (Text.ofInt n) t)
  | none => set.resolveWord t

/-- The value of an option, its name given with or without `&` around it. -/
def get? (set : OptionSet) (name : Text) : Option Text :=
  set.dictionary.bind fun d => d.get? (placeholder name)

def unresolved (set : OptionSet) (t : Text) : List Text :=
  match set.dictionary with
  | some d => d.unresolved t
  | none => []

/-- The required file that is missing, if one is. -/
def missing? (tree : FileTree) (env : Environment) : Option OptionsError :=
  if !tree.isFile (env.tierFile .company) then
    some (.missing "company options" (env.tierFile .company))
  else if !tree.isFile env.tableLocationsFile then
    some (.missing "table_locations" env.tableLocationsFile)
  else none

/-- The dictionary of a stored artifact that may be used. -/
def cached? {σ : Type} (store : OptionStore σ) (kept : σ) (tree : FileTree) (now : Int)
    (set : OptionSet) : Noted (Option Dictionary) :=
  match store.load kept set.env.cacheKey with
  | .error e => .withWarnings none ["Option cache unreadable (" ++ e.summary ++ "). Rebuilding."]
  | .ok none => pure none
  | .ok (some artifact) =>
    if artifact.isFresh set.maxAge now (set.env.optionSources.map tree.modified?) then
      match Dictionary.ofRecords? artifact.text with
      | .ok d => pure (some d)
      | .error reason =>
        .withWarnings none ["Option cache '" ++ set.env.cacheKey.fileName ++ "' is corrupt: " ++
          reason.message ++ ". Rebuilding."]
    else pure none

/-- Keeps the records of a dictionary, if the store works. -/
def keep {σ : Type} (store : OptionStore σ) (kept : σ) (now : Int) (set : OptionSet)
    (d : Dictionary) : Noted σ :=
  match store.save kept set.env.cacheKey ⟨d.toRecords, now⟩ with
  | .ok kept' => pure kept'
  | .error e => .withWarnings kept ["Could not write option cache: " ++ e.message]

/-- How a build ended, and the set and the store after it. -/
structure BuildResult (σ : Type) where
  result : Except OptionsError Unit
  set : OptionSet
  kept : σ

/-- Compiles the sources and stores what comes out. -/
def rebuild {σ : Type} (store : OptionStore σ) (kept : σ) (tree : FileTree) (now : Int)
    (set : OptionSet) : Noted (BuildResult σ) := do
  match ← (Dictionary.compile tree set.env).run with
  | .error e => return ⟨.error e, set, kept⟩
  | .ok d => return ⟨.ok (), { set with dictionary := some d }, ← keep store kept now set d⟩

/-- Builds the set at the instant `now`. Unless forced, a set that is built stays as it is and a
fresh artifact is used. -/
def build {σ : Type} (store : OptionStore σ) (kept : σ) (tree : FileTree) (now : Int)
    (force : Bool) (set : OptionSet) : Noted (BuildResult σ) :=
  if set.isBuilt && !force then pure ⟨.ok (), set, kept⟩
  else
    match missing? tree set.env with
    | some e => pure ⟨.error e, set, kept⟩
    | none => do
      match ← (if force then pure none else cached? store kept tree now set) with
      | some d => return ⟨.ok (), { set with dictionary := some d }, kept⟩
      | none => rebuild store kept tree now set

end OptionSet

end SqlBuild
