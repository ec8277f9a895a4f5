import SqlBuild.BuildScript.Line
import SqlBuild.BuildScript.UpgradeLine
import SqlBuild.Run.Script

/-!
# Upgrades

An upgrade file runs once: the server is asked first whether the upgrade is known and still to be
applied, and told in the end that it has been, unless some part of it failed. In between the file is
walked line by line; the SQL between control lines is run like a script.
-/

namespace SqlBuild

namespace Script

/-- Runs a script for each database of a build line, or for the caller's when it names none. -/
def forDatabases (ctx : Context) (vars : RunVariables) (line : BuildLine) (source : Text) :
    List (Option Text) → Outcome → Exec Outcome
  | [], total => pure total
  | database :: rest, total => do
    let outcome ← run ctx { vars.nested source with
      database
      sequence := line.sequence
      echo := vars.echo || line.hasFlag "-e" }
    forDatabases ctx vars line source rest (total + outcome)

/-- The databases a build line runs its script on. -/
def databases (vars : RunVariables) (line : BuildLine) : List (Option Text) :=
  if line.databases = [] then [vars.database] else line.databases.map some

/-- The script command of a build line. -/
def runLine (ctx : Context) (vars : RunVariables) (line : BuildLine) : Exec Outcome :=
  match line.source with
  | none => Exec.failWith "runsql: no source file given."
  | some source => forDatabases ctx vars line source (databases vars line) {}

end Script

namespace Upgrade

/-- What the server knows of an upgrade. -/
inductive Status
  | pending
  | unknown
  | applied
deriving DecidableEq, Repr

def Status.ofReturnCode (code : Int) : Status :=
  if code = 1 then unknown else if code = 2 then applied else pending

/-- The call that asks for the status of an upgrade, its placeholders not yet resolved. -/
def checkCall (id : Text) : Text := "&i_upgrade_check& " ++ Audit.literal id

/-- The statement that records an upgrade, its placeholders not yet resolved. -/
def completion (id : Text) : Text :=
  "update &ba_upgrades& set end_dt = getdate() where upgrade_no = " ++ Audit.literal id

def check (ctx : Context) (id : Text) (database : Option Text) : Exec Status :=
  Exec.withSession database do
    return Status.ofReturnCode (← Exec.returnCode (ctx.resolveWord (checkCall id)))

/-- Tells the server that an upgrade has been applied. A failure is reported. -/
def record (ctx : Context) (id : Text) (database : Option Text) : Exec Unit := do
  let sql := ctx.resolveWord (completion id) ++ "\ngo\n"
  match ← liftM (Batch.runOnce sql database).run with
  | .ok report =>
    if report.success then pure ()
    else
      liftM (Run.reportError ("Upgrade " ++ id ++ " ran but its completion was not recorded: " ++
        Text.trim report.output))
  | .error e => let _ ← Exec.foldError e

/-- Where the walk over an upgrade file stands. -/
structure Walk where
  database : Option Text
  /-- The lines of the batch under way, the last one first. -/
  pending : List Text := []
  /-- Whether every unit so far succeeded. -/
  ok : Bool := true
deriving DecidableEq, Repr

namespace Walk

/-- The text of the batch under way. -/
def batch (w : Walk) : Text := Text.unlines w.pending.reverse

/-- Counts a unit. -/
def note (w : Walk) (outcome : Outcome) : Walk := { w with ok := w.ok && outcome.isSuccess }

/-- Runs SQL like a script, from a scratch file. That it has none ends the upgrade. -/
def runBatch (ctx : Context) (vars : RunVariables) (database : Option Text) (sql : Text) :
    Exec Outcome :=
  match ctx.scratch .batch sql with
  | .ok (name, files) =>
    Script.run { ctx with files } { vars.nested name with database }
  | .error e => throw (.scratch e)

/-- Runs the batch under way, unless it is blank. -/
def flush (ctx : Context) (vars : RunVariables) (w : Walk) : Exec Walk :=
  let after := { w with pending := [] }
  if Text.isAllBlank w.batch then pure after
  else return after.note (← runBatch ctx vars w.database w.batch)

/-- Runs a script command that stands in the file; anything else in its place does nothing. -/
def embedded (ctx : Context) (vars : RunVariables) (w : Walk) (command : Text) : Exec Walk :=
  match ParsedLine.ofLine ctx.resolveWord ctx.env.root command with
  | .command line => do
    let vars := { vars.nested vars.source with database := w.database }
    return w.note (← Script.runLine ctx vars line)
  | _ => pure w

/-- Runs a statement in a session of its own. -/
def statement (ctx : Context) (vars : RunVariables) (w : Walk) (line : Text) : Exec Walk := do
  let sql := ctx.resolveWord (Text.trim line) ++ "\ngo\n"
  if vars.preview then do
    liftM (Run.emit sql)
    return w
  else do
    let outcome ← Exec.orFold do
      let report ← Batch.runOnce sql w.database
      liftM (Run.emit report.output)
      return .unit report.success
    if !outcome.isSuccess then
      liftM (Run.reportError ("'" ++ Text.trim line ++ "' failed."))
    return w.note outcome

/-- Walks over lines. -/
def through (ctx : Context) (vars : RunVariables) (w : Walk) : List Text → Exec Walk
  | [] => w.flush ctx vars
  | line :: rest => do
    Exec.checkCancelled
    match UpgradeLine.ofLine line with
    | .exit => w.flush ctx vars
    | .use database =>
      let w ← w.flush ctx vars
      through ctx vars { w with database := some (ctx.resolveWord database) } rest
    | .embedded command =>
      let w ← w.flush ctx vars
      through ctx vars (← w.embedded ctx vars command) rest
    | .rename =>
      let w ← w.flush ctx vars
      through ctx vars (← w.statement ctx vars line) rest
    | .terminator => through ctx vars (← w.flush ctx vars) rest
    | .sql => through ctx vars { w with pending := line :: w.pending } rest

end Walk

/-- The complaint about a file whose name has no upgrade number. -/
def unnumbered (source : Text) : Text :=
  "Cannot determine the upgrade number of '" ++ source ++
    "'; expected a name like sct_<number>."

/-- Applies the content of an upgrade file and records it. -/
def applyText (ctx : Context) (vars : RunVariables) (id content : Text) : Exec Outcome := do
  let w ← Walk.through ctx vars { database := vars.database } (Text.lines content)
  if w.ok then do
    if !vars.preview then record ctx id vars.database
    return .success
  else
    Exec.failWith ("Upgrade " ++ id ++ " failed; it is not marked as applied.")

/-- Applies an upgrade whose number and file are known. -/
def applyFile (ctx : Context) (vars : RunVariables) (id path : Text) : Exec Outcome := do
  if vars.changelog && !ctx.env.rawMode && !vars.preview then
    Audit.write ctx "i_run_upgrade" vars
  match ctx.files.readLossy path with
  | .ok content => applyText ctx vars id content
  | .error cause => Exec.failWith (readFailure path cause)

/-- Applies an upgrade if the server says that it is still to be applied. -/
def applyChecked (ctx : Context) (vars : RunVariables) (id path : Text) : Exec Outcome := do
  match ← liftM (check ctx id vars.database).run with
  | .error e => Exec.foldError e
  | .ok .unknown => Exec.failWith ("Upgrade control record for upgrade " ++ id ++ " is missing.")
  | .ok .applied => Exec.failWith ("Upgrade " ++ id ++ " has already been applied.")
  | .ok .pending => applyFile ctx vars id path

/-- The command that applies an upgrade file. A preview does not ask the server. -/
def run (ctx : Context) (vars : RunVariables) : Exec Outcome :=
  match vars.upgradeNumber <|> UpgradeName.number? vars.source with
  | none => Exec.failWith (unnumbered vars.source)
  | some id =>
    let path := ctx.locate vars.source
    if ctx.files.isFile path then
      if vars.preview then applyFile ctx vars id path else applyChecked ctx vars id path
    else Exec.failWith ("Upgrade file not found: '" ++ path ++ "'")

end Upgrade

end SqlBuild
