import SqlBuild.Options.Source

/-!
# The option cache

A compiled dictionary is kept as an artifact, one for each platform, company and environment. An
artifact may be used while it is fresh: not older than the threshold, and with no source written
after it. A store keeps artifacts; the one used by the commands keeps them as files in one
directory.
-/

namespace SqlBuild

structure CacheKey where
  platform : Platform
  company : Text
  environment : Text
deriving DecidableEq, Repr

namespace CacheKey

/-- Letters in lower case, digits and `-`; every other character as `_`. -/
def sanitize (t : Text) : Text :=
  t.map fun c => if c.isAlphanum || c == '-' then c.toLower else '_'

/-- The name of the artifact's file. -/
def fileName (key : CacheKey) : Text :=
  "options_" ++ sanitize key.platform.name ++ "_" ++ sanitize key.company ++ "_" ++
    sanitize key.environment ++ ".cache"

end CacheKey

def Environment.cacheKey (env : Environment) : CacheKey := ⟨env.platform, env.company, env.name⟩

/-- The records of a dictionary with the instant they were stored. -/
structure Artifact where
  text : Text
  written : Int
deriving DecidableEq, Repr

/-- The nanoseconds of a second. -/
def second : Nat := 1000000000

/-- The threshold in minutes unless another is set. -/
def defaultMinutes : Nat := 60

/-- A number of minutes in seconds, if that is a number of 64 bits. -/
def secondsOf? (minutes : Nat) : Option Nat :=
  if 60 * minutes < UInt64.size then some (60 * minutes) else none

/-- The threshold in seconds that a setting in minutes asks for; one that is no number of 64 bits
counts as the default. Of minutes that are too many for their seconds nothing comes: arithmetic that
is checked ends the program there. -/
def maxAgeOf (setting : Option Text) : Option Nat :=
  secondsOf? ((setting.bind fun t => Text.unsigned? 64 (Text.trim t)).getD defaultMinutes)

/-- The latest of the instants at which the existing sources were written. -/
def newest? (modified : List (Option Int)) : Option Int := (modified.filterMap id).max?

/-- Whether an artifact may be used at the instant `now`, with a threshold in seconds. -/
def Artifact.isFresh (artifact : Artifact) (maxAge : Nat) (now : Int)
    (modified : List (Option Int)) : Bool :=
  now - artifact.written ≤ maxAge * second &&
    match newest? modified with
    | some instant => instant ≤ artifact.written
    | none => true

/-- Why a store refuses. -/
inductive StoreError
  | unreadable (path : Text) (cause : IoError)
  | noDirectory (directory : Text) (cause : IoError)
  | unwritable (path : Text) (cause : IoError)
  | broken
deriving DecidableEq, Repr

namespace StoreError

/-- What could not be done. -/
def summary : StoreError → Text
  | unreadable path _ => "Failed to read content of file '" ++ path ++ "'"
  | noDirectory directory _ => "Could not create cache directory '" ++ directory ++ "'"
  | unwritable path _ => "Failed to write option cache '" ++ path ++ "'"
  | broken => "store is broken"

/-- What could not be done, and why. -/
def message : StoreError → Text
  | unreadable path cause => (unreadable path cause).summary ++ ": " ++ cause.message
  | noDirectory directory cause => (noDirectory directory cause).summary ++ ": " ++ cause.message
  | unwritable path cause =>
    (unwritable path cause).summary ++ ": failed to persist temporary file: " ++ cause.message
  | broken => broken.summary

end StoreError

/-- A place for artifacts. Loading changes nothing; saving replaces the whole artifact. -/
structure OptionStore (σ : Type) where
  load : σ → CacheKey → Except StoreError (Option Artifact)
  save : σ → CacheKey → Artifact → Except StoreError σ

namespace OptionStore

/-- The file of an artifact in `directory`. -/
def fileFor (directory : Text) (key : CacheKey) : Text := Path.join directory key.fileName

/-- Artifacts as files in one directory, which is made when it is missing. The instant an artifact
was written is that of its file. -/
def inDirectory (directory : Text) : OptionStore FileTree where
  load tree key :=
    let path := fileFor directory key
    if tree.contains path then
      match tree.readText path with
      | .ok text => .ok (some ⟨text, (tree.modified? path).getD 0⟩)
      | .error cause => .error (.unreadable path cause)
    else .ok none
  save tree key artifact :=
    let path := fileFor directory key
    match tree.makeDirectories directory with
    | .error cause => .error (.noDirectory directory cause)
    | .ok tree' =>
      match tree'.write path (Utf8.encode artifact.text) artifact.written with
      | .ok tree'' => .ok tree''
      | .error cause => .error (.unwritable path cause)

end OptionStore

end SqlBuild
