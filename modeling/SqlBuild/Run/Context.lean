import SqlBuild.BuildScript.Sequence
import SqlBuild.Options.OptionSet
import SqlBuild.Reference.Marker
import SqlBuild.Reference.Symbolic
import SqlBuild.Run.Outcome
import SqlBuild.Run.Session

/-!
# What a run is given

The context is the same for everything a run does: the environment, its option set, the files, and
what becomes of a text that has to be put in a scratch file. The variables belong to one command;
commands that a build script starts inherit those that concern the output, and never the audit.
-/

namespace SqlBuild

structure Context where
  env : Environment
  options : OptionSet
  files : FileTree
  scratch : Scratch := Scratch.inDirectory files "/tmp"

namespace Context

/-- Placeholders resolved; in raw mode a text stays as it is. -/
def resolve (ctx : Context) (t : Text) (sequence : Option Int) : Text :=
  if ctx.env.rawMode then t else ctx.options.resolve t sequence

def resolveWord (ctx : Context) (t : Text) : Text := ctx.resolve t none

/-- The path of a source file: placeholders, the source root marker, symbolic segments. Two of these
texts are the same path when they agree in their components (`Path.Same`). -/
def locate (ctx : Context) (source : Text) : Text :=
  Reference.expandSymbols
    (Reference.expandMarker ctx.env.root (ctx.resolveWord (Text.trim source)))

end Context

/-- What one command is to do. -/
structure RunVariables where
  /-- A file, or the SQL itself for an inline command. -/
  source : Text
  database : Option Text := none
  sequence : Option SequenceRange := none
  /-- Show the numbered lines of a batch before its result. -/
  echo : Bool := false
  outputFile : Option Text := none
  /-- Write the audit entry first. -/
  changelog : Bool := false
  /-- Write the SQL instead of running it. -/
  preview : Bool := false
  upgradeNumber : Option Text := none
  /-- The command line for the audit entry. -/
  commandLine : Text := []
deriving DecidableEq, Repr

/-- The variables of a command started by another one. -/
def RunVariables.nested (vars : RunVariables) (source : Text) : RunVariables :=
  { source
    database := vars.database
    echo := vars.echo
    outputFile := vars.outputFile
    preview := vars.preview }

namespace Exec

/-- Reports a failure and counts it as a unit. -/
def failWith (message : Text) : Exec Outcome := do
  liftM (Run.reportError message)
  return .failure

/-- Counts an error as a failed unit, unless the run was cancelled. -/
def foldError : ExecError → Exec Outcome
  | .cancelled => throw .cancelled
  | e => failWith e.message

/-- The result of `work`, or the outcome of its error by `foldError`. -/
def orFold (work : Exec Outcome) : Exec Outcome := do
  match ← liftM work.run with
  | .ok outcome => pure outcome
  | .error e => foldError e

end Exec

/-- Why a source file could not be read. -/
def readFailure (path : Text) (cause : IoError) : Text :=
  "Failed to read '" ++ path ++ "': " ++ cause.message

end SqlBuild
