import SqlBuild.Bulk.Copy
import SqlBuild.CommandLine.Arguments
import SqlBuild.CommandLine.Error
import SqlBuild.BuildScript.UpgradeName
import SqlBuild.Run.Audit

/-!
# Requests

A request is what the words of a command line ask for, before anything is looked up: the work, the
profile it is for, and what is said about the connection. Mistakes in the arguments show here.
-/

namespace SqlBuild

/-- The work of a command. -/
inductive Work
  | script (vars : RunVariables)
  | inlineSql (vars : RunVariables)
  | build (vars : RunVariables)
  | upgrade (vars : RunVariables)
  | copy (table : Text) (direction : BulkDirection) (file : Text) (database : Option Text)
deriving DecidableEq, Repr

structure Request where
  profile : Option Text
  connection : ConnectionArguments
  work : Work
deriving DecidableEq, Repr

namespace Request

/-- The arguments of a command that runs a file, and what it is to do. -/
def script (command : Command) (words : List Text) :
    Except CommandError (ScriptArguments × RunVariables) := do
  let args ← (ScriptArguments.read words).mapError .usage
  let vars ← (args.runVariables (Audit.commandLine command.name words)).mapError .argument
  return (args, vars)

/-- The complaint about an upgrade file without a number. -/
def noNumber (source : Text) : Text :=
  "Cannot determine the upgrade number of '" ++ source ++
    "'; expected a name like sct_<number>."

/-- The request in the words behind a command; `userVariables` gives those that paths name. -/
def ofWords (userVariables : Text → Option Text) (command : Command) (words : List Text) :
    Except CommandError Request :=
  match command with
  | .runSql => do
    let (args, vars) ← script command words
    return ⟨args.profile, args.connection, .script vars⟩
  | .runCreate => do
    let (args, vars) ← script command words
    return ⟨args.profile, args.connection, .build vars⟩
  | .runUpgrade => do
    let (args, vars) ← script command words
    match UpgradeName.number? vars.source with
    | none => throw (.argument (noNumber vars.source))
    | some number =>
      return ⟨args.profile, args.connection, .upgrade { vars with upgradeNumber := number }⟩
  | .isqlLine => do
    let args ← (InlineArguments.read words).mapError .usage
    return ⟨args.profile, args.connection, .inlineSql args.runVariables⟩
  | .bulkCopy => do
    let args ← (BulkArguments.read words).mapError .usage
    let direction ← (BulkDirection.ofName? args.direction).mapError fun asked =>
      .argument (BulkDirection.unknown asked)
    let file ← (UserPath.expand userVariables args.file).mapError fun name =>
      .argument (UserPath.unset args.file name)
    return ⟨args.profile, args.connection, .copy args.table direction file args.database⟩

end Request

end SqlBuild
