import SqlBuild.Run.Audit

/-!
# Scripts and inline commands

A script is composed from its source: the audit entry if there is one, then the source's lines with
their placeholders resolved, up to a line that is just `exit` or `quit`. It runs once, or once for
each value of a sequence range, each time in a session of its own; in preview it is written to the
output instead. An inline command is a script given on the command line and is never audited.
-/

namespace SqlBuild

namespace Script

/-- The lines of a source up to the command to leave. -/
def body (content : Text) : List Text :=
  (Text.lines content).takeWhile (!Batch.isExit ·)

/-- The line that ends the last batch, unless the script ends with one. -/
def close (sql : Text) : Text :=
  if (Text.lines sql).getLast?.any Batch.isTerminator then sql else sql ++ "go\n"

/-- The script of a source for one value of the sequence. -/
def compose (ctx : Context) (content : Text) (audit : Option Text) (sequence : Option Int) : Text :=
  let entry := match audit with
    | some statement => [ctx.resolve statement sequence, ("go" : Text)]
    | none => []
  close (Text.unlines (entry ++ (body content).map (ctx.resolve · sequence)))

/-- The lines of a batch with their numbers. -/
def numbered (batch : Text) : Text :=
  (Text.lines batch).zipIdx.flatMap fun (line, n) => Text.ofNat (n + 1) ++ "> " ++ line ++ "\n"

/-- What is written about a batch: its lines when asked for, then its result. The audit entry is set
off from what follows. -/
def showBatch (echo audited : Bool) (index : Nat) (batch : Text) (result : BatchResult) :
    Run Unit := do
  if echo then Run.emit (numbered batch)
  match result with
  | .ok text => Run.emit text
  | .error e => Run.reportError e.fullText
  if echo && audited && index == 0 then Run.emit "\n"

/-- Runs a script in a session of its own; whether no batch was rejected. -/
def execute (sql : Text) (database : Option Text) (echo audited : Bool) : Exec Bool :=
  Exec.withSession database do
    let results ← Batch.runFrom (showBatch echo audited) 0 (Batch.split sql)
    return results.all BatchResult.isOk

/-- One script: whether it went well. -/
def iterate (ctx : Context) (vars : RunVariables) (content : Text) (audit : Option Text)
    (sequence : Option Int) : Exec Bool := do
  Exec.checkCancelled
  let sql := compose ctx content audit sequence
  if vars.preview then do
    liftM (Run.emit sql)
    return true
  else do
    let outcome ← Exec.orFold do
      return .unit (← execute sql vars.database vars.echo audit.isSome)
    return outcome.isSuccess

/-- Runs `work` for `count` values from `value` on; whether all went well. -/
def forValues (work : Int → Exec Bool) : Nat → Int → Bool → Exec Bool
  | 0, _, ok => pure ok
  | count + 1, value, ok => do
    let result ← work value
    forValues work count (value + 1) (ok && result)

/-- Runs the script of a source, for each value of the sequence if there is one. -/
def runText (ctx : Context) (vars : RunVariables) (audit : Option Text) (content : Text) :
    Exec Outcome := do
  match vars.sequence with
  | none => return .unit (← iterate ctx vars content audit none)
  | some range =>
    return .unit (← forValues (fun n => iterate ctx vars content audit (some n))
      (range.last - range.first + 1).toNat range.first true)

/-- The audit entry of a script, if it is to have one. -/
def audit? (ctx : Context) (program : Text) (vars : RunVariables) : Option Text :=
  if vars.changelog && !ctx.env.rawMode then
    some (Audit.statement program vars.commandLine ctx.env.user)
  else none

/-- The complaint about a range that ends before it starts. -/
def invalidRange (range : SequenceRange) : Text :=
  "Invalid sequence range: first (" ++ Text.ofInt range.first ++ ") is greater than last (" ++
    Text.ofInt range.last ++ ")."

/-- Runs a source file. -/
def runSource (ctx : Context) (vars : RunVariables) : Exec Outcome :=
  let path := ctx.locate vars.source
  if ctx.files.isFile path then
    match ctx.files.readLossy path with
    | .ok content => runText ctx vars (audit? ctx "runsql" vars) content
    | .error cause => Exec.failWith (readFailure path cause)
  else Exec.failWith ("Source file not found: '" ++ path ++ "'")

/-- The command that runs a script file. -/
def run (ctx : Context) (vars : RunVariables) : Exec Outcome :=
  match vars.sequence with
  | some range =>
    if range.first ≤ range.last then runSource ctx vars
    else Exec.failWith (invalidRange range)
  | none => runSource ctx vars

end Script

namespace Inline

/-- The script of an inline command. -/
def compose (command : Text) : Text := Text.trimEnd command ++ "\ngo\n"

/-- The command that runs SQL given on the command line. -/
def run (ctx : Context) (vars : RunVariables) : Exec Outcome := do
  let command := ctx.resolveWord vars.source
  if vars.echo then liftM (Run.emit command)
  if vars.preview then do
    liftM (Run.emit (compose command))
    return .success
  else
    Exec.orFold do
      let report ← Batch.runOnce (compose command) vars.database
      liftM (Run.emit report.output)
      if !report.success then liftM (Run.reportError "One or more batches failed.")
      return .unit report.success

end Inline

end SqlBuild
