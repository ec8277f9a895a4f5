import SqlBuild.Environment.Basic
import SqlBuild.Noted
import SqlBuild.Options.Record

/-!
# Option sources

The option sources of an environment lie in its setup directory: an optional default file, the
company's file, an optional file for the profile, and the table mappings. A line that starts like a
directive and is none is reported and skipped; a file that is not well-formed text is an error.
-/

namespace SqlBuild

/-- Why an option set cannot be built. -/
inductive OptionsError
  | missing (kind path : Text)
  | unreadable (path : Text) (cause : IoError)
deriving DecidableEq, Repr

def OptionsError.message : OptionsError → Text
  | missing kind path => "Required " ++ kind ++ " file not found: '" ++ path ++ "'"
  | unreadable path cause =>
    "Failed to read option source '" ++ path ++ "': " ++ cause.message

/-- The layers of option files, from the lowest precedence to the highest. -/
inductive Tier
  | default
  | company
  | profile
deriving DecidableEq, Repr

namespace Tier

def all : List Tier := [default, company, profile]

/-- The name recorded in the server's options table. -/
def label : Tier → Text
  | default => "default"
  | company => "company"
  | profile => "profile"

def fileName (env : Environment) : Tier → Text
  | default => "options.def"
  | company => "options." ++ env.company
  | profile => "options." ++ env.company ++ "." ++ env.name

end Tier

namespace Environment

def tierFile (env : Environment) (tier : Tier) : Text :=
  Path.join env.setupDirectory (tier.fileName env)

def tableLocationsFile (env : Environment) : Text :=
  Path.join env.setupDirectory "table_locations"

/-- Every file the option set depends on, existing or not. -/
def optionSources (env : Environment) : List Text :=
  Tier.all.map env.tierFile ++ [env.tableLocationsFile]

end Environment

/-- A directive with the number of its line, counted from one. -/
structure SourceDirective where
  line : Nat
  directive : Directive
deriving DecidableEq, Repr

/-- Work that reads option sources: it may fail, and gives warnings either way. -/
abbrev Reading := ExceptT OptionsError Noted

namespace SourceDirective

/-- The directives on the lines of a source, numbered from `number`. -/
def ofLines (path : Text) (number : Nat) : List Text → Noted (List SourceDirective)
  | [] => pure []
  | line :: rest =>
    match Directive.ofLine? line with
    | .ok none => ofLines path (number + 1) rest
    | .ok (some directive) => do
      return ⟨number, directive⟩ :: (← ofLines path (number + 1) rest)
    | .error reason => do
      Noted.warn (path ++ ":" ++ Text.ofNat number ++ ": ignoring malformed option line (" ++
        reason.message ++ ")")
      ofLines path (number + 1) rest

/-- The directives of a file. -/
def ofFile (tree : FileTree) (path : Text) : Reading (List SourceDirective) :=
  match tree.readText path with
  | .error cause => throw (.unreadable path cause)
  | .ok content => liftM (ofLines path 1 (Text.lines content))

end SourceDirective

end SqlBuild
