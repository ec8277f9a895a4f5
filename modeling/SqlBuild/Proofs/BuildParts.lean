import SqlBuild.Run.Build

/-!
# The parts of a build

A build falls into parts before any of it is run: the scripts its lines come to, each on one
database, the upgrades, the compilers, and what cannot be started at all (`plan`). Which parts these
are depends on the files and the options and on nothing a server answers. The build runs its parts
in order, with a look at the token before every line, and adds up their outcomes (`runScript_eq`).
-/

namespace SqlBuild

namespace Outcome

@[simp] theorem executed_add (a b : Outcome) : (a + b).executed = a.executed + b.executed := rfl

@[simp] theorem failed_add (a b : Outcome) : (a + b).failed = a.failed + b.failed := rfl

@[ext] theorem ext {a b : Outcome} (executed : a.executed = b.executed)
    (failed : a.failed = b.failed) : a = b := by
  cases a
  cases b
  simp_all

theorem none_add (a : Outcome) : {} + a = a := by
  ext <;> simp

theorem add_assoc (a b c : Outcome) : a + b + c = a + (b + c) := by
  ext <;> simp [Nat.add_assoc]

end Outcome

namespace Audit

/-- Whether a command that is run on its own writes an audit entry. -/
def isDue (ctx : Context) (vars : RunVariables) : Bool :=
  vars.changelog && !ctx.env.rawMode && !vars.preview

/-- The audit entry of a command, if it is due. -/
def writeIfDue (ctx : Context) (program : Text) (vars : RunVariables) : Exec Unit :=
  if isDue ctx vars then write ctx program vars else pure ()

end Audit

namespace Build

/-- Why something is not started. -/
inductive Refusal
  /-- A command that stands alone, and the kind of file it needs. -/
  | noSource (command : BuildCommand) (kind : Text)
  | invalidRange (range : SequenceRange)
  | noSourceFile (path : Text)
  | noBuildScript (path : Text)
  | unreadable (path : Text) (cause : IoError)
  | cycle (path : Text)
  | tooDeep (path : Text)
deriving DecidableEq, Repr

def Refusal.message : Refusal → Text
  | noSource command kind => command.name ++ ": no " ++ kind ++ " given."
  | invalidRange range => Script.invalidRange range
  | noSourceFile path => "Source file not found: '" ++ path ++ "'"
  | noBuildScript path => "Build script not found: '" ++ path ++ "'"
  | unreadable path cause => readFailure path cause
  | cycle path => "Build script '" ++ path ++ "' includes itself; skipped."
  | tooDeep path =>
    "Build scripts nested deeper than " ++ Text.ofNat maxDepth ++ " levels at '" ++ path ++ "'."

/-- What is run on its own and has an outcome of its own. -/
inductive Part
  /-- A script, with the content of its source. -/
  | script (vars : RunVariables) (content : Text)
  | upgrade (vars : RunVariables)
  | compiler (kind : CompilerKind)
  /-- A compiler that is only mentioned. -/
  | mention (kind : CompilerKind)
  | refused (why : Refusal)
deriving DecidableEq, Repr

def Part.run (ctx : Context) : Part → Exec Outcome
  | script vars content => Script.runText ctx vars none content
  | upgrade vars => Upgrade.run ctx vars
  | compiler kind => Compiler.run ctx kind
  | mention kind => do
    liftM (Run.emit (kind.name ++ " (not run in preview)"))
    return {}
  | refused why => Exec.failWith why.message

/-- A step of a build: a look at whether it has been cancelled, before every line, or a part. -/
inductive Step
  | poll
  | part (p : Part)
deriving DecidableEq, Repr

def Step.part? : Step → Option Part
  | poll => none
  | part p => some p

def Part.ofSource (ctx : Context) (vars : RunVariables) : Part :=
  let path := ctx.locate vars.source
  if ctx.files.isFile path then
    match ctx.files.readLossy path with
    | .ok content => script vars content
    | .error cause => refused (.unreadable path cause)
  else refused (.noSourceFile path)

def Part.ofScript (ctx : Context) (vars : RunVariables) : Part :=
  match vars.sequence with
  | some range =>
    if range.first ≤ range.last then ofSource ctx vars else refused (.invalidRange range)
  | none => ofSource ctx vars

def scriptVariables (vars : RunVariables) (line : BuildLine) (source : Text)
    (database : Option Text) : RunVariables :=
  { vars.nested source with
    database
    sequence := line.sequence
    echo := vars.echo || line.hasFlag "-e" }

def upgradeVariables (vars : RunVariables) (line : BuildLine) (source : Text) : RunVariables :=
  { vars.nested source with
    database := line.databases.head? <|> vars.database
    upgradeNumber := UpgradeName.number? source }

/-- The steps of a command; `enter` gives those of a nested script. -/
def commandSteps (ctx : Context) (vars : RunVariables) (enter : RunVariables → List Step)
    (line : BuildLine) : List Step :=
  match line.command, line.source with
  | .runSql, none => [.part (.refused (.noSource .runSql "source file"))]
  | .runSql, some source =>
    (Script.databases vars line).map fun database =>
      .part (.ofScript ctx (scriptVariables vars line source database))
  | .runCreate, none => [.part (.refused (.noSource .runCreate "build script"))]
  | .runCreate, some source => enter (vars.nested source)
  | .runUpgrade, none => [.part (.refused (.noSource .runUpgrade "upgrade file"))]
  | .runUpgrade, some source => [.part (.upgrade (upgradeVariables vars line source))]
  | .compile kind, _ => [.part (if vars.preview then .mention kind else .compiler kind)]

/-- The steps of a line. -/
def lineSteps (ctx : Context) (vars : RunVariables) (enter : RunVariables → List Step)
    (line : Text) : List Step :=
  .poll :: match ParsedLine.ofLine ctx.resolveWord ctx.env.root line with
    | .command found => commandSteps ctx vars enter found
    | _ => []

/-- The steps of a build script. `stack` and `depth` are those of `runScript`. -/
def plan (ctx : Context) (depth : Nat) (stack : List Text) (vars : RunVariables) : List Step :=
  let path := ctx.locate vars.source
  if !ctx.files.isFile path then [.part (.refused (.noBuildScript path))]
  else if ctx.files.identity path ∈ stack then [.part (.refused (.cycle path))]
  else
    match depth with
    | 0 => [.part (.refused (.tooDeep path))]
    | depth + 1 =>
      match ctx.files.readLossy path with
      | .error cause => [.part (.refused (.unreadable path cause))]
      | .ok content =>
        (Text.lines content).flatMap
          (lineSteps ctx vars (plan ctx depth (ctx.files.identity path :: stack)))

theorem plan_zero (ctx : Context) (stack : List Text) (vars : RunVariables) :
    plan ctx 0 stack vars =
      let path := ctx.locate vars.source
      if !ctx.files.isFile path then [.part (.refused (.noBuildScript path))]
      else if ctx.files.identity path ∈ stack then [.part (.refused (.cycle path))]
      else [.part (.refused (.tooDeep path))] :=
  rfl

theorem plan_succ (ctx : Context) (depth : Nat) (stack : List Text) (vars : RunVariables) :
    plan ctx (depth + 1) stack vars =
      let path := ctx.locate vars.source
      if !ctx.files.isFile path then [.part (.refused (.noBuildScript path))]
      else if ctx.files.identity path ∈ stack then [.part (.refused (.cycle path))]
      else
        match ctx.files.readLossy path with
        | .error cause => [.part (.refused (.unreadable path cause))]
        | .ok content =>
          (Text.lines content).flatMap
            (lineSteps ctx vars (plan ctx depth (ctx.files.identity path :: stack))) :=
  rfl

/-- The command lines of a build script. -/
def commands (ctx : Context) (source : Text) : List BuildLine :=
  match ctx.files.readLossy (ctx.locate source) with
  | .error _ => []
  | .ok content => (Text.lines content).filterMap fun line =>
    match ParsedLine.ofLine ctx.resolveWord ctx.env.root line with
    | .command found => some found
    | _ => none

/-- The parts of a build, in the order in which they are run. -/
def parts (ctx : Context) (vars : RunVariables) : List Part :=
  (plan ctx maxDepth [] vars).filterMap Step.part?

/-- Runs steps and adds up their outcomes. -/
def runSteps (ctx : Context) : List Step → Outcome → Exec Outcome
  | [], total => pure total
  | .poll :: rest, total => do
    Exec.checkCancelled
    runSteps ctx rest total
  | .part p :: rest, total => do
    let outcome ← p.run ctx
    runSteps ctx rest (total + outcome)

variable {ctx : Context} {vars : RunVariables}

theorem runSteps_append : ∀ (before after : List Step) (total : Outcome),
    runSteps ctx (before ++ after) total = runSteps ctx before total >>= runSteps ctx after
  | [], _, _ => by simp [runSteps]
  | .poll :: rest, after, _ => by simp [runSteps, runSteps_append rest after]
  | .part _ :: rest, after, _ => by simp [runSteps, runSteps_append rest after]

theorem runSteps_add (counted : Outcome) : ∀ (steps : List Step) (total : Outcome),
    runSteps ctx steps (counted + total) = (counted + ·) <$> runSteps ctx steps total
  | [], _ => by simp [runSteps]
  | .poll :: rest, _ => by simp [runSteps, runSteps_add counted rest]
  | .part _ :: rest, _ => by simp [runSteps, runSteps_add counted rest, Outcome.add_assoc]

theorem bind_runSteps {work : Exec Outcome} {steps : List Step} (h : work = runSteps ctx steps {})
    (rest : List Step) (total : Outcome) :
    (work >>= fun outcome => runSteps ctx rest (total + outcome)) =
      runSteps ctx (steps ++ rest) total := by
  have hsteps : runSteps ctx steps total = (total + ·) <$> work := by
    rw [h, ← runSteps_add, show total + {} = total from rfl]
  rw [runSteps_append, hsteps, bind_map_left]

theorem runSteps_part (p : Part) : runSteps ctx [.part p] {} = p.run ctx := by
  simp [runSteps, Outcome.none_add]

theorem runSteps_refused (why : Refusal) :
    runSteps ctx [.part (.refused why)] {} = Exec.failWith why.message := runSteps_part _

theorem script_run_eq (h : vars.changelog = false) :
    Script.run ctx vars = (Part.ofScript ctx vars).run ctx := by
  have hsource : Script.runSource ctx vars = (Part.ofSource ctx vars).run ctx := by
    unfold Script.runSource Part.ofSource
    dsimp only
    split
    · cases ctx.files.readLossy (ctx.locate vars.source) with
      | ok content =>
        simp only [Part.run, Script.audit?, h, Bool.false_and, Bool.false_eq_true, if_false]
      | error cause => rfl
    · rfl
  unfold Script.run Part.ofScript
  cases vars.sequence with
  | none => exact hsource
  | some range =>
    dsimp only
    split
    · exact hsource
    · rfl

theorem forDatabases_eq (line : BuildLine) (source : Text) :
    ∀ (databases : List (Option Text)) (total : Outcome),
      Script.forDatabases ctx vars line source databases total =
        runSteps ctx (databases.map fun database =>
          .part (.ofScript ctx (scriptVariables vars line source database))) total
  | [], _ => rfl
  | database :: rest, total => by
    rw [Script.forDatabases, List.map_cons, runSteps]
    refine congr (congrArg _ (script_run_eq rfl)) (funext fun outcome => ?_)
    exact forDatabases_eq line source rest _

theorem mem_lineSteps {steps : RunVariables → List Step} {line : Text} {p : Part}
    (h : .part p ∈ lineSteps ctx vars steps line) :
    ∃ found, ParsedLine.ofLine ctx.resolveWord ctx.env.root line = .command found ∧
      .part p ∈ commandSteps ctx vars steps found := by
  have hmem := (List.mem_cons.1 h).resolve_left (by simp)
  cases hparsed : ParsedLine.ofLine ctx.resolveWord ctx.env.root line with
  | command found =>
    rw [hparsed] at hmem
    exact ⟨found, rfl, hmem⟩
  | skip =>
    rw [hparsed] at hmem
    cases hmem
  | inert text =>
    rw [hparsed] at hmem
    cases hmem

/-- A part of a build script is a refusal, or it comes from one of its commands. -/
theorem mem_plan {depth : Nat} {stack : List Text} {p : Part}
    (h : .part p ∈ plan ctx depth stack vars) :
    (∃ why, p = .refused why) ∨ ∃ inner found, depth = inner + 1 ∧
      found ∈ commands ctx vars.source ∧ .part p ∈ commandSteps ctx vars
        (plan ctx inner (ctx.files.identity (ctx.locate vars.source) :: stack)) found := by
  have hone : ∀ why, Step.part p ∈ [Step.part (.refused why)] → ∃ why, p = .refused why :=
    fun why hmem => ⟨why, Step.part.inj (List.mem_singleton.1 hmem)⟩
  cases depth with
  | zero =>
    rw [plan_zero] at h
    dsimp only at h
    split at h
    · exact .inl (hone _ h)
    · split at h <;> exact .inl (hone _ h)
  | succ inner =>
    rw [plan_succ] at h
    dsimp only at h
    split at h
    · exact .inl (hone _ h)
    split at h
    · exact .inl (hone _ h)
    cases hread : ctx.files.readLossy (ctx.locate vars.source) with
    | error cause =>
      rw [hread] at h
      exact .inl (hone _ h)
    | ok content =>
      rw [hread] at h
      obtain ⟨line, hline, hmem⟩ := List.mem_flatMap.1 h
      obtain ⟨found, hparsed, hmem⟩ := mem_lineSteps hmem
      refine .inr ⟨inner, found, rfl, ?_, hmem⟩
      rw [commands, hread]
      exact List.mem_filterMap.2 ⟨line, hline, by rw [hparsed]⟩

theorem noSource_message :
    (Refusal.noSource .runSql "source file").message = "runsql: no source file given." ∧
    (Refusal.noSource .runCreate "build script").message = "runcreate: no build script given." ∧
    (Refusal.noSource .runUpgrade "upgrade file").message =
      "i_run_upgrade: no upgrade file given." := by decide

theorem dispatch_eq {enter : RunVariables → Exec Outcome} {steps : RunVariables → List Step}
    (henter : ∀ nested, enter nested = runSteps ctx (steps nested) {}) (line : BuildLine) :
    dispatch ctx vars enter line = runSteps ctx (commandSteps ctx vars steps line) {} := by
  obtain ⟨hscript, hbuild, hupgrade⟩ := noSource_message
  unfold dispatch commandSteps Script.runLine runCreateLine runUpgradeLine runCompilerLine
  cases line.command <;> cases line.source <;> dsimp only
  case runSql.none => rw [runSteps_refused, hscript]
  case runSql.some source => exact forDatabases_eq line source _ _
  case runCreate.none => rw [runSteps_refused, hbuild]
  case runCreate.some source => exact henter _
  case runUpgrade.none => rw [runSteps_refused, hupgrade]
  case runUpgrade.some source => exact (runSteps_part (.upgrade _)).symm
  all_goals
    rw [runSteps_part]
    split <;> rfl

theorem runLines_eq {enter : RunVariables → Exec Outcome} {steps : RunVariables → List Step}
    (henter : ∀ nested, enter nested = runSteps ctx (steps nested) {}) :
    ∀ (lines : List Text) (total : Outcome), runLines ctx vars enter lines total =
      runSteps ctx (lines.flatMap (lineSteps ctx vars steps)) total
  | [], _ => rfl
  | line :: rest, total => by
    rw [runLines, List.flatMap_cons, lineSteps, List.cons_append, runSteps]
    refine congrArg _ (funext fun _ => ?_)
    cases ParsedLine.ofLine ctx.resolveWord ctx.env.root line with
    | command found =>
      dsimp only
      rw [← bind_runSteps (dispatch_eq henter found)]
      exact congrArg _ (funext fun outcome => runLines_eq henter rest _)
    | skip => exact runLines_eq henter rest total
    | inert text => exact runLines_eq henter rest total

theorem runScript_eq : ∀ (depth : Nat) (stack : List Text) (vars : RunVariables),
    runScript ctx depth stack vars = runSteps ctx (plan ctx depth stack vars) {}
  | 0, stack, vars => by
    rw [runScript_zero, plan_zero]
    dsimp only
    split
    · exact (runSteps_refused (.noBuildScript _)).symm
    · split
      · exact (runSteps_refused (.cycle _)).symm
      · exact (runSteps_refused (.tooDeep _)).symm
  | depth + 1, stack, vars => by
    rw [runScript_succ, plan_succ]
    dsimp only
    split
    · exact (runSteps_refused (.noBuildScript _)).symm
    · split
      · exact (runSteps_refused (.cycle _)).symm
      · cases ctx.files.readLossy (ctx.locate vars.source) with
        | error cause => exact (runSteps_refused (.unreadable _ cause)).symm
        | ok content => exact runLines_eq (runScript_eq depth _) _ _

theorem run_eq : run ctx vars = Audit.writeIfDue ctx "runcreate" vars >>= fun _ => do
    let outcome ← runSteps ctx (plan ctx maxDepth [] vars) {}
    liftM (Run.emit (summary outcome))
    return outcome := by
  rw [run, Audit.writeIfDue, Audit.isDue, ← runScript_eq]
  split
  · rfl
  · exact (pure_bind _ _).symm

end Build

end SqlBuild
