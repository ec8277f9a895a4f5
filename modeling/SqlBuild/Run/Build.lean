import SqlBuild.Run.Compiler
import SqlBuild.Run.Upgrade

/-!
# Builds

A build script runs line by line: scripts, upgrades, metadata compilers and other build scripts,
each when its line is reached. A failed unit is counted and does not stop the build. A script that
is already running is not entered again, and scripts are nested at most thirty-two deep.
-/

namespace SqlBuild

namespace Build

/-- How deep build scripts may be nested. -/
def maxDepth : Nat := 32

/-- The upgrade command of a build line. -/
def runUpgradeLine (ctx : Context) (vars : RunVariables) (line : BuildLine) : Exec Outcome :=
  match line.source with
  | none => Exec.failWith "i_run_upgrade: no upgrade file given."
  | some source =>
    Upgrade.run ctx { vars.nested source with
      database := line.databases.head? <|> vars.database
      upgradeNumber := UpgradeName.number? source }

/-- The build command of a build line; `enter` runs a nested script. -/
def runCreateLine (vars : RunVariables) (line : BuildLine) (enter : RunVariables → Exec Outcome) :
    Exec Outcome :=
  match line.source with
  | none => Exec.failWith "runcreate: no build script given."
  | some source => enter (vars.nested source)

/-- A compiler command; in preview it is only mentioned. -/
def runCompilerLine (ctx : Context) (vars : RunVariables) (kind : CompilerKind) : Exec Outcome :=
  if vars.preview then do
    liftM (Run.emit (kind.name ++ " (not run in preview)"))
    return {}
  else Compiler.run ctx kind

/-- Runs the command of a line. -/
def dispatch (ctx : Context) (vars : RunVariables) (enter : RunVariables → Exec Outcome)
    (line : BuildLine) : Exec Outcome :=
  match line.command with
  | .runSql => Script.runLine ctx vars line
  | .runCreate => runCreateLine vars line enter
  | .runUpgrade => runUpgradeLine ctx vars line
  | .compile kind => runCompilerLine ctx vars kind

/-- Runs lines one after the other and adds up their outcomes. -/
def runLines (ctx : Context) (vars : RunVariables) (enter : RunVariables → Exec Outcome) :
    List Text → Outcome → Exec Outcome
  | [], total => pure total
  | line :: rest, total => do
    Exec.checkCancelled
    match ParsedLine.ofLine ctx.resolveWord ctx.env.root line with
    | .command found =>
      let outcome ← dispatch ctx vars enter found
      runLines ctx vars enter rest (total + outcome)
    | _ => runLines ctx vars enter rest total

/-- Runs a build script. `stack` holds the scripts being run, the innermost first, and `depth` is
how many more may be nested. -/
def runScript (ctx : Context) (depth : Nat) (stack : List Text) (vars : RunVariables) :
    Exec Outcome :=
  let path := ctx.locate vars.source
  if !ctx.files.isFile path then Exec.failWith ("Build script not found: '" ++ path ++ "'")
  else if ctx.files.identity path ∈ stack then
    Exec.failWith ("Build script '" ++ path ++ "' includes itself; skipped.")
  else
    match depth with
    | 0 =>
      Exec.failWith ("Build scripts nested deeper than " ++ Text.ofNat maxDepth ++
        " levels at '" ++ path ++ "'.")
    | depth + 1 =>
      match ctx.files.readLossy path with
      | .error cause => Exec.failWith (readFailure path cause)
      | .ok content =>
        runLines ctx vars (runScript ctx depth (ctx.files.identity path :: stack))
          (Text.lines content) {}

theorem runScript_zero (ctx : Context) (stack : List Text) (vars : RunVariables) :
    runScript ctx 0 stack vars =
      let path := ctx.locate vars.source
      if !ctx.files.isFile path then Exec.failWith ("Build script not found: '" ++ path ++ "'")
      else if ctx.files.identity path ∈ stack then
        Exec.failWith ("Build script '" ++ path ++ "' includes itself; skipped.")
      else
        Exec.failWith ("Build scripts nested deeper than " ++ Text.ofNat maxDepth ++
          " levels at '" ++ path ++ "'.") :=
  rfl

theorem runScript_succ (ctx : Context) (depth : Nat) (stack : List Text) (vars : RunVariables) :
    runScript ctx (depth + 1) stack vars =
      let path := ctx.locate vars.source
      if !ctx.files.isFile path then Exec.failWith ("Build script not found: '" ++ path ++ "'")
      else if ctx.files.identity path ∈ stack then
        Exec.failWith ("Build script '" ++ path ++ "' includes itself; skipped.")
      else
        match ctx.files.readLossy path with
        | .error cause => Exec.failWith (readFailure path cause)
        | .ok content =>
          runLines ctx vars (runScript ctx depth (ctx.files.identity path :: stack))
            (Text.lines content) {} :=
  rfl

/-- The last line a build writes. -/
def summary (outcome : Outcome) : Text :=
  "Build finished: " ++ Text.ofNat outcome.executed ++ " unit(s) run, " ++
    Text.ofNat outcome.failed ++ " failed."

/-- The command that runs a build script: the audit entry, the build, and a summary. -/
def run (ctx : Context) (vars : RunVariables) : Exec Outcome := do
  if vars.changelog && !ctx.env.rawMode && !vars.preview then
    Audit.write ctx "runcreate" vars
  let outcome ← runScript ctx maxDepth [] vars
  liftM (Run.emit (summary outcome))
  return outcome

end Build

end SqlBuild
