import SqlBuild.CommandLine.Job
import SqlBuild.SqlServer.Server
import SqlBuild.Sybase.Server

/-!
# Programs

There is one program with all commands, and one for each of the commands that are called most. A
program ends with a code and two texts, one for the output and one for errors. `run` is a whole
program on servers that are given as functions.
-/

namespace SqlBuild

/-- How a program ends. -/
structure Ending where
  code : Nat
  output : Text := []
  errors : Text := []
deriving DecidableEq, Repr

namespace Ending

/-- The end of a command: 0 when it succeeded, 130 when it was interrupted, 101 when its arithmetic
failed, 1 otherwise. -/
def ofResult (result : Except CommandError Unit) (output : Text) : Ending :=
  match result with
  | .ok () => ⟨0, output, []⟩
  | .error .overflow => ⟨101, output, CommandError.overflow.message ++ "\n"⟩
  | .error e =>
    if e.isInterruption then ⟨130, output, "\nInterrupted.\n"⟩
    else ⟨1, output, "\nError: " ++ e.message ++ "\n"⟩

end Ending

inductive Program
  | allCommands
  | single (command : Command)
deriving DecidableEq, Repr

namespace Program

/-- The program with this name. -/
def ofName? (name : Text) : Option Program :=
  if name = "ibs" then some allCommands
  else
    let frequent : List Command := [.runSql, .isqlLine, .runCreate, .runUpgrade]
    (frequent.find? (·.name = name)).map single

/-- The answer to a command line without a command. -/
def usage : Text := "Usage: ibs <runsql|isqlline|runcreate|i_run_upgrade|bcp> [args...]\n"

def version : Text := "ibs-compilers 0.1.0\n"

/-- The word for the command and the words behind it, or how the program ends without one. -/
def split (program : Program) (words : List Text) : Except Ending (Text × List Text) :=
  match program with
  | single command => .ok (command.name, words)
  | allCommands =>
    match ProgramArguments.read words with
    | .ok ⟨some word, rest⟩ => .ok (word, rest)
    | .ok ⟨none, _⟩ => .error ⟨2, [], usage⟩
    | .error .displayVersion => .error ⟨0, version, []⟩
    | .error .displayHelp => .error ⟨0, usage, []⟩
    | .error e => .error ⟨2, [], e.message ++ "\n"⟩

/-- The job that the words ask for, and the files after it has been prepared. -/
def job (around : Surroundings) (word : Text) (words : List Text) :
    Except CommandError Job × FileTree :=
  match Command.ofName? word with
  | none => (.error (.unknownCommand word), around.files)
  | some command =>
    match Request.ofWords around.lookup command words with
    | .error e => (.error e, around.files)
    | .ok request => Job.prepare around request

/-- What programs run on: the console, and both kinds of servers. -/
structure Stage (σ : Type) where
  console : Console σ
  /-- What has been printed since this was last asked for. -/
  collect : σ → Text × σ
  programs : Sybase.Programs σ
  link : SqlServer.Link σ

/-- Performs a job on the kind of server its environment names. -/
def Stage.perform {σ : Type} (stage : Stage σ) (job : Job) (now : Int) (s : σ) :
    (Except CommandError Unit × FileTree) × σ :=
  let run := job.perform now
  let env := job.context.env
  match env.platform with
  | .sybase =>
    let (result, desk) := run.exec (Sybase.host stage.console stage.programs env.login) ⟨s, none⟩
    (result, desk.programs)
  | .mssql => run.exec (SqlServer.host stage.console stage.link env.account) s

/-- Runs a program: how it ends, and the files and the servers after it. -/
def run {σ : Type} (stage : Stage σ) (around : Surroundings) (program : Program)
    (words : List Text) (s : σ) : Ending × FileTree × σ :=
  match program.split words with
  | .error ending => (ending, around.files, s)
  | .ok (word, rest) =>
    match job around word rest with
    | (.error e, files) => (.ofResult (.error e) [], files, s)
    | (.ok job, _) =>
      let ((result, files), s) := stage.perform job around.now s
      let (printed, s) := stage.collect s
      let (output, files) := job.deliver printed around.now files
      (.ofResult result output, files, s)

end Program

end SqlBuild
