import SqlBuild.CommandLine.Request
import SqlBuild.Run.Build

/-!
# Jobs

A job is a request with everything it needs: the environment, its option set, the files, and the
file the output goes to, if it goes to one. `prepare` makes it; errors in the configuration show
there, before the server is asked for anything. `perform` is the run of a job.
-/

namespace SqlBuild

/-- What a command finds when it starts. -/
structure Surroundings where
  files : FileTree
  now : Int
  lookup : Text → Option Text

namespace Surroundings

/-- A directory of the user: the one a variable names by an absolute path, or else `fallback` in the
home directory. -/
def userDirectory (around : Surroundings) (name fallback : Text) : Text :=
  match (around.lookup name).filter (Text.startsWith · "/") with
  | some directory => directory
  | none => Path.join ((around.lookup "HOME").getD []) fallback

/-- Where the settings are. -/
def settingsFile (around : Surroundings) : SettingsFile :=
  match around.lookup "IBS_SETTINGS" with
  | some path => ⟨path⟩
  | none =>
    ⟨Path.join (Path.join (around.userDirectory "XDG_CONFIG_HOME" ".config") "ibs") "settings.toml"⟩

/-- Where scratch files are made. -/
def scratchDirectory (around : Surroundings) : Text := (around.lookup "TMPDIR").getD "/tmp"

/-- Where artifacts of option sets are kept. -/
def cacheDirectory (around : Surroundings) : Text :=
  match around.lookup "IBS_CACHE_DIR" with
  | some path => path
  | none =>
    Path.join (Path.join (around.userDirectory "XDG_CACHE_HOME" ".cache") "ibs") "options"

end Surroundings

structure Job where
  context : Context
  /-- The file for the output; without one it goes to the console. -/
  output : Option Text
  work : Work

namespace Job

/-- The environment a request is for. -/
def target (around : Surroundings) (request : Request) : Except CommandError Environment := do
  let platform ← request.connection.platform?.mapError .argument
  let overrides : Overrides :=
    { user := request.connection.user, password := request.connection.password, platform }
  (Target.resolve around.files around.settingsFile request.profile overrides around.lookup
    around.lookup).value.mapError .target

/-- The option set of an environment, which raw mode leaves unbuilt, and the files after that. -/
def optionSet (around : Surroundings) (rebuild : Bool) (env : Environment) :
    Except CommandError OptionSet × FileTree :=
  match maxAgeOf (around.lookup "IBS_OPTIONS_CACHE_MINUTES") with
  | none => (.error .overflow, around.files)
  | some maxAge =>
    let set : OptionSet := { env, maxAge }
    if env.rawMode then (.ok set, around.files)
    else
      let store := OptionStore.inDirectory around.cacheDirectory
      let built := (set.build store around.files around.files around.now rebuild).value
      (match built.result with
        | .ok () => .ok built.set
        | .error e => .error (.options env.name e), built.kept)

/-- Makes the file for the output, empty, if there is to be one. -/
def openOutput (around : Surroundings) (files : FileTree) (path : Option Text) :
    Except CommandError (Option Text × FileTree) :=
  match path with
  | none => .ok (none, files)
  | some template =>
    match UserPath.expand around.lookup template with
    | .error name => .error (.argument (UserPath.unset template name))
    | .ok path =>
      match files.write path [] around.now with
      | .ok files => .ok (some path, files)
      | .error cause => .error (.output path cause)

/-- The job of a request, and the files it leaves. -/
def prepare (around : Surroundings) (request : Request) : Except CommandError Job × FileTree :=
  match target around request with
  | .error e => (.error e, around.files)
  | .ok env =>
    match optionSet around request.connection.rebuild env with
    | (.error e, files) => (.error e, files)
    | (.ok options, files) =>
      match openOutput around files request.connection.output with
      | .error e => (.error e, files)
      | .ok (output, files) =>
        let scratch := Scratch.inDirectory files around.scratchDirectory
        (.ok ⟨{ env, options, files, scratch }, output, request.work⟩, files)

/-- Whether the units of a run succeeded. -/
def judge (result : Except ExecError Outcome) : Except CommandError Unit :=
  match result with
  | .error e => .error (.server e)
  | .ok outcome => if outcome.isSuccess then .ok () else .error (.failedUnits outcome)

/-- What is printed for rows that were moved. -/
def copied (count : Nat) (table : Text) : Text :=
  Text.ofNat count ++ " row(s) copied for " ++ table ++ ".\n"

/-- Moves the rows of a table in a session of its own; what became of it, and the files after it. -/
def copy (files : FileTree) (now : Int) (table : Text) (direction : BulkDirection) (path : Text)
    (database : Option Text) : Run (Except CommandError Unit × FileTree) := do
  match (← Run.act (.connect database) : Except ExecError Unit) with
  | .error e => return (.error (.server e), files)
  | .ok () =>
    let (files, transfer) ← Bulk.copy files now table direction path
    Run.disconnect
    match transfer.result with
    | .error e => return (.error (.copy table e), files)
    | .ok count =>
      match (← Run.act (.print (copied count table)) : Except IoError Unit) with
      | .ok () => return (.ok (), files)
      | .error cause => return (.error (.unwritable cause), files)

/-- The run of a job: how it ends, and the files after it. -/
def perform (now : Int) (job : Job) : Run (Except CommandError Unit × FileTree) :=
  let units (run : Exec Outcome) : Run (Except CommandError Unit × FileTree) := do
    return (judge (← run.run), job.context.files)
  match job.work with
  | .script vars => units (Script.run job.context vars)
  | .inlineSql vars => units (Inline.run job.context vars)
  | .build vars => units (Build.run job.context vars)
  | .upgrade vars => units (Upgrade.run job.context vars)
  | .copy table direction file database =>
    copy job.context.files now (job.context.resolveWord table) direction file database

/-- What is left for the console of all that a job printed, and the files with the rest. -/
def deliver (job : Job) (printed : Text) (now : Int) (files : FileTree) : Text × FileTree :=
  match job.output with
  | none => (printed, files)
  | some path =>
    match files.write path (Utf8.encode printed) now with
    | .ok files => ([], files)
    | .error _ => ([], files)

end Job

end SqlBuild
