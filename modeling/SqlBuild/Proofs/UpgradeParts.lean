import SqlBuild.Proofs.SessionPlays
import SqlBuild.Run.Upgrade

/-!
# The parts of an upgrade file

An upgrade file falls into parts before any of it is run: the batches between its control lines, the
script commands and the statements on their own, each with the database it is to run in (`plan`).
The walk over the file runs these parts in order, and its flag says whether all of them succeeded
(`through_eq`).
-/

namespace SqlBuild

namespace Upgrade

/-- What runs on its own and succeeds or fails. -/
inductive Part
  | batch (database : Option Text) (text : Text)
  | embedded (database : Option Text) (line : BuildLine)
  | statement (database : Option Text) (line : Text)
deriving DecidableEq, Repr

/-- A step of the walk: a look at whether the run has been cancelled, before every line, or a part. -/
inductive Step
  | poll
  | part (p : Part)
deriving DecidableEq, Repr

def Step.part? : Step → Option Part
  | poll => none
  | part p => some p

/-- The part the lines gathered so far come to, the last line first; none when they are blank. -/
def gathered (database : Option Text) (lines : List Text) : List Step :=
  let text := Text.unlines lines.reverse
  if Text.isAllBlank text then [] else [.part (.batch database text)]

/-- The part of a script command, unless it is inert. -/
def commanded (ctx : Context) (database : Option Text) (command : Text) : List Step :=
  match ParsedLine.ofLine ctx.resolveWord ctx.env.root command with
  | .command line => [.part (.embedded database line)]
  | _ => []

/-- The part of a statement on its own. -/
def alone (database : Option Text) (line : Text) : List Step := [.part (.statement database line)]

/-- The steps of the walk over lines, `pending` being the lines gathered before them. -/
def plan (ctx : Context) (database : Option Text) (pending : List Text) : List Text → List Step
  | [] => gathered database pending
  | line :: rest =>
    .poll :: match UpgradeLine.ofLine line with
      | .exit => gathered database pending
      | .use name => gathered database pending ++ plan ctx (some (ctx.resolveWord name)) [] rest
      | .embedded command =>
        gathered database pending ++ (commanded ctx database command ++ plan ctx database [] rest)
      | .rename =>
        gathered database pending ++ (alone database line ++ plan ctx database [] rest)
      | .terminator => gathered database pending ++ plan ctx database [] rest
      | .sql => plan ctx database (line :: pending) rest

/-- Runs a part; in preview a statement is written, and succeeds. -/
def Part.run (ctx : Context) (vars : RunVariables) : Part → Exec Outcome
  | .batch database text => Walk.runBatch ctx vars database text
  | .embedded database line => Script.runLine ctx { vars.nested vars.source with database } line
  | .statement database line => do
    let w : Walk ← Walk.statement ctx vars { database } line
    return .unit w.ok

/-- Runs steps; the parts that were run, with their outcomes. -/
def runSteps (ctx : Context) (vars : RunVariables) : List Step → Exec (List (Part × Outcome))
  | [] => pure []
  | .poll :: rest => do
    Exec.checkCancelled
    runSteps ctx vars rest
  | .part p :: rest => do
    let outcome ← p.run ctx vars
    return (p, outcome) :: (← runSteps ctx vars rest)

/-- Whether every part succeeded. -/
def allOk (done : List (Part × Outcome)) : Bool := done.all fun d => d.2.isSuccess

variable {ctx : Context} {vars : RunVariables}

theorem runSteps_append : ∀ before after : List Step,
    runSteps ctx vars (before ++ after) = do
      let done ← runSteps ctx vars before
      let more ← runSteps ctx vars after
      return done ++ more
  | [], after => by simp [runSteps]
  | .poll :: rest, after => by simp [runSteps, runSteps_append rest after]
  | .part p :: rest, after => by simp [runSteps, runSteps_append rest after]

@[simp] theorem allOk_nil : allOk [] = true := rfl

@[simp] theorem allOk_append (done more : List (Part × Outcome)) :
    allOk (done ++ more) = (allOk done && allOk more) := List.all_append

/-- The walk once parts have run. -/
def Walk.after (w : Walk) (done : List (Part × Outcome)) : Walk := { w with ok := w.ok && allOk done }

theorem runSteps_part (p : Part) :
    runSteps ctx vars [.part p] = (fun outcome => [(p, outcome)]) <$> p.run ctx vars := by
  simp [runSteps]

/-- A walk that ends normally has run every part. -/
theorem plays_runSteps : ∀ {steps : List Step} {events : List Event} {done : List (Part × Outcome)},
    (runSteps ctx vars steps).Plays events (.ok done) → done.map Prod.fst = steps.filterMap Step.part?
  | [], _, _, h => by
    obtain ⟨-, heq⟩ := h
    rw [← Except.ok.inj heq]
    rfl
  | .poll :: rest, _, _, h => by
    rw [runSteps] at h
    obtain ⟨after, -, hr⟩ | ⟨-, hcon⟩ := Exec.plays_checkCancelled_bind h
    · rw [plays_runSteps hr]
      rfl
    · cases hcon
  | .part p :: rest, _, _, h => by
    rw [runSteps] at h
    rcases Exec.plays_bind.1 h with ⟨outcome, _, _, rfl, -, hrest⟩ | ⟨_, -, hcon⟩
    · rcases Exec.plays_bind.1 hrest with ⟨more, _, _, rfl, hmore, hend⟩ | ⟨_, -, hcon⟩
      · obtain ⟨-, heq⟩ := hend
        rw [← Except.ok.inj heq, List.map_cons, plays_runSteps hmore]
        rfl
      · cases hcon
    · cases hcon

theorem flush_eq (w : Walk) : w.flush ctx vars =
    (fun done => { w.after done with pending := [] }) <$>
      runSteps ctx vars (gathered w.database w.pending) := by
  unfold Walk.flush gathered
  by_cases h : Text.isAllBlank w.batch = true
  · have hb : Text.isAllBlank (Text.unlines w.pending.reverse) = true := h
    rw [if_pos h, if_pos hb]
    simp [runSteps, Walk.after]
  · have hb : ¬ Text.isAllBlank (Text.unlines w.pending.reverse) = true := h
    rw [if_neg h, if_neg hb, runSteps_part]
    simp [Part.run, Walk.batch, Walk.note, Walk.after, allOk]

theorem embedded_eq (w : Walk) (command : Text) : w.embedded ctx vars command =
    w.after <$> runSteps ctx vars (commanded ctx w.database command) := by
  unfold Walk.embedded commanded
  cases ParsedLine.ofLine ctx.resolveWord ctx.env.root command with
  | command line =>
    show _ = w.after <$> runSteps ctx vars [.part (.embedded w.database line)]
    rw [runSteps_part]
    simp [Part.run, Walk.note, Walk.after, allOk]
  | skip => simp [runSteps, Walk.after]
  | inert text => simp [runSteps, Walk.after]

theorem statement_eq (w : Walk) (line : Text) : w.statement ctx vars line =
    w.after <$> runSteps ctx vars (alone w.database line) := by
  rw [alone, runSteps_part, Part.run]
  unfold Walk.statement
  by_cases h : vars.preview = true
  · simp [h, Walk.after, allOk]
  · simp only [if_neg h, bind_assoc, map_bind, map_pure]
    refine congrArg _ (funext fun outcome => ?_)
    split <;> simp [Walk.after, Walk.note, allOk]

/-- The flag of the walk says whether all parts of the file succeeded. -/
theorem through_eq : ∀ (lines : List Text) (w : Walk),
    Walk.ok <$> Walk.through ctx vars w lines =
      (fun done => w.ok && allOk done) <$> runSteps ctx vars (plan ctx w.database w.pending lines)
  | [], w => by
    rw [Walk.through, plan, flush_eq, Functor.map_map]
    rfl
  | line :: rest, w => by
    have ih := through_eq rest
    rw [Walk.through, plan, runSteps, map_bind, map_bind]
    refine congrArg _ (funext fun _ => ?_)
    cases UpgradeLine.ofLine line with
    | exit =>
      show Walk.ok <$> w.flush ctx vars = _
      rw [flush_eq, Functor.map_map]
      rfl
    | use name => simp [flush_eq, ih, runSteps_append, Walk.after, Bool.and_assoc]
    | embedded command =>
      simp [flush_eq, embedded_eq, ih, runSteps_append, Walk.after, Bool.and_assoc]
    | rename =>
      simp [flush_eq, statement_eq, ih, runSteps_append, Walk.after, Bool.and_assoc]
    | terminator => simp [flush_eq, ih, runSteps_append, Walk.after, Bool.and_assoc]
    | sql => exact ih _

end Upgrade

end SqlBuild
