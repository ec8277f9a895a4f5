import SqlBuild.Proofs.ScratchFiles
import SqlBuild.Proofs.ScriptActions
import SqlBuild.Proofs.StraightLine
import SqlBuild.Proofs.UpgradeStretches
import SqlBuild.Rehearsal.MemoryServer

/-!
# The walk over an upgrade file

The walk runs the parts of the stretches of its file (`runs_every_stretch`). What they are and where
they run is settled by the file and the options, so it is the same whether they succeed or fail; a
cancellation ends the walk with the part that is under way, and so does a batch for which there is
no scratch file. A script command that names databases runs on these, every other part in the
database in force.
-/

namespace SqlBuild

namespace Upgrade

/-- Where a part opens its sessions: a script command may name databases of its own. -/
def Part.databases : Part → List (Option Text)
  | batch database _ | statement database _ => [database]
  | embedded database line =>
    if line.databases = [] then [database] else line.databases.map some

/-- A batch that has no scratch file, and the error this comes to. -/
def Part.Unstaged (ctx : Context) : Part → ExecError → Prop
  | batch _ text, e => ∃ cause, ctx.scratch .batch text = .error cause ∧ e = .scratch cause
  | _, _ => False

/-- A part that was begun, what happened in it, and how it ended. -/
structure Ran (ctx : Context) (vars : RunVariables) where
  part : Part
  events : List Event
  result : Except ExecError Outcome
  plays : (part.run ctx vars).Plays events result

def Ran.succeeded {ctx : Context} {vars : RunVariables} (one : Ran ctx vars) : Bool :=
  match one.result with
  | .ok outcome => outcome.isSuccess
  | .error _ => false

variable {ctx : Context} {vars : RunVariables}

/-- The only databases an action may open a session on. -/
def ConnectsTo (databases : List (Option Text)) (action : Action) : Prop :=
  ∀ database, action = .connect database → database ∈ databases

theorem connectsTo_of_ne {databases : List (Option Text)} {action : Action}
    (h : ∀ database, action ≠ .connect database) : ConnectsTo databases action :=
  fun database heq => absurd heq (h database)

theorem connectsTo_connect {databases : List (Option Text)} {database : Option Text}
    (h : database ∈ databases) : ConnectsTo databases (.connect database) := by
  rintro other heq
  rwa [← Action.connect.inj heq]

theorem connectsTo_other {databases : List (Option Text)} (action : Action)
    (h : ∀ database, action ≠ .connect database) (_ : ∀ sql, action ≠ .batch sql) :
    ConnectsTo databases action := connectsTo_of_ne h

theorem only_statement (w : Walk) (line : Text) :
    (w.statement ctx vars line).Only (ConnectsTo [w.database]) := by
  have htell : ∀ {r : Run Unit}, r.Only (·.toUser = true) →
      (liftM r : Exec Unit).Only (ConnectsTo [w.database]) :=
    fun h => Exec.only_lift (Script.only_toUser connectsTo_other h)
  unfold Walk.statement
  dsimp only
  split
  · exact (htell (Run.only_emit _)).bind fun _ => Exec.only_pure _
  · refine Exec.Only.bind (Script.only_orFold connectsTo_other ?_) fun outcome => ?_
    · refine Exec.Only.bind ?_ fun report =>
        (htell (Run.only_emit _)).bind fun _ => Exec.only_pure _
      refine Exec.only_withSession (connectsTo_connect (List.mem_singleton.2 rfl))
        (connectsTo_of_ne (by simp)) (fun _ => connectsTo_of_ne (by simp)) ?_
      exact (Batch.only_runFrom (fun _ _ _ => Run.only_done ()) (connectsTo_of_ne (by simp)) _ 0
        fun sql _ => connectsTo_of_ne (by simp)).bind fun _ => Exec.only_pure _
    · split
      · exact (htell (Run.only_write _)).bind fun _ => Exec.only_pure _
      · exact Exec.only_pure _

theorem Part.only_run (part : Part) :
    (part.run ctx vars).Only (ConnectsTo part.databases) := by
  cases part with
  | batch database text =>
    rw [run]
    cases hfile : ctx.scratch .batch text with
    | ok file =>
      rw [Walk.runBatch_of_ok hfile]
      refine Script.only_run connectsTo_other (connectsTo_connect ?_)
        fun _ _ _ sql _ => connectsTo_of_ne ?_
      · exact List.mem_singleton.2 rfl
      · simp
    | error cause =>
      rw [Walk.runBatch_of_error hfile]
      rintro events result ⟨rfl, -⟩ e he
      cases he
  | embedded database line =>
    exact Script.only_runLine connectsTo_other (fun sql => connectsTo_of_ne (by simp)) line
      fun database hmem => connectsTo_connect hmem
  | statement database line => exact (only_statement _ line).bind fun _ => Exec.only_pure _

theorem folds_statement (w : Walk) (line : Text) : (w.statement ctx vars line).Folds := by
  unfold Walk.statement
  dsimp only
  split
  · exact (Exec.folds_lift _).bind fun _ => Exec.folds_pure _
  · refine (Exec.folds_orFold _).bind fun outcome => ?_
    split
    · exact (Exec.folds_lift _).bind fun _ => Exec.folds_pure _
    · exact Exec.folds_pure _

/-- Only a cancellation ends a part early, unless it is a batch that cannot be begun. -/
theorem Part.ends_run (part : Part) {events : List Event} {e : ExecError}
    (h : (part.run ctx vars).Plays events (.error e)) : e = .cancelled ∨ part.Unstaged ctx e := by
  cases part with
  | batch database text =>
    rw [run] at h
    cases hfile : ctx.scratch .batch text with
    | ok file =>
      rw [Walk.runBatch_of_ok hfile] at h
      exact .inl (Script.folds_run _ _ h)
    | error cause =>
      rw [Walk.runBatch_of_error hfile] at h
      obtain ⟨-, heq⟩ := h
      exact .inr ⟨cause, hfile, (Except.error.inj heq).symm⟩
  | embedded database line => exact .inl (Script.folds_runLine line _ _ h)
  | statement database line =>
    exact .inl ((folds_statement _ line).bind (fun _ => Exec.folds_pure _) _ _ h)

/-- Parts are begun in order, whatever became of those before, and nothing is asked of the server in
between. It ends when all have been run, and tells whether all succeeded. Before that it is ended by
a cancellation, in a part or between two, or by a part that has no scratch file, and by nothing
else. -/
structure RunsInOrder (parts : List Part) (events : List Event) (result : Except ExecError Bool)
    (ran : List (Ran ctx vars)) : Prop where
  begun : ran.map Ran.part <+: parts
  asked : requests events = ran.flatMap (requests ·.events)
  whole : ∀ ok, result = .ok ok → ran.map Ran.part = parts ∧ ok = ran.all Ran.succeeded
  ended : ∀ one ∈ ran, ∀ e, one.result = .error e → result = .error e
  stopped : ∀ e, result = .error e →
    e = .cancelled ∨ ∃ one, ran.getLast? = some one ∧ one.part.Unstaged ctx e

/-- A part that comes to its end before steps that are run. -/
theorem RunsInOrder.cons {parts : List Part} {events share : List Event} {p : Part}
    {outcome : Outcome} {later : Except ExecError (List (Part × Outcome))}
    {ran : List (Ran ctx vars)} (h : RunsInOrder parts events (allOk <$> later) ran)
    (hp : (p.run ctx vars).Plays share (.ok outcome)) :
    RunsInOrder (p :: parts) (share ++ events) (allOk <$> ((p, outcome) :: ·) <$> later)
      (⟨p, share, .ok outcome, hp⟩ :: ran) where
  begun := (List.prefix_cons_inj p).2 h.begun
  asked := by rw [requests_append, h.asked, List.flatMap_cons]
  whole ok heq := by
    cases later with
    | error e => cases heq
    | ok more =>
      obtain rfl := Except.ok.inj heq
      obtain ⟨hparts, hok⟩ := h.whole _ rfl
      exact ⟨congrArg (p :: ·) hparts, congrArg (outcome.isSuccess && ·) hok⟩
  ended one hone e heq := by
    rcases List.mem_cons.1 hone with rfl | hone
    · cases heq
    · cases later with
      | error e' => exact h.ended one hone e heq
      | ok more => cases h.ended one hone e heq
  stopped e heq := by
    cases later with
    | error e' =>
      refine (h.stopped e heq).imp_right fun ⟨one, hlast, hunstaged⟩ => ⟨one, ?_, hunstaged⟩
      rw [List.getLast?_cons, hlast]
      rfl
    | ok more => cases heq

/-- Steps run their parts in order. -/
theorem runsInOrder_runSteps : ∀ {steps : List Step} {events : List Event}
    {result : Except ExecError (List (Part × Outcome))},
    (runSteps ctx vars steps).Plays events result → ∃ ran : List (Ran ctx vars),
      RunsInOrder (steps.filterMap Step.part?) events (allOk <$> result) ran
  | [], _, _, h => by
    obtain ⟨rfl, rfl⟩ := h
    exact ⟨[], List.nil_prefix, rfl, fun ok heq => ⟨rfl, (Except.ok.inj heq).symm⟩, by simp,
      by simp⟩
  | .poll :: rest, _, _, h => by
    rw [runSteps] at h
    obtain ⟨after, rfl, hrest⟩ | ⟨rfl, rfl⟩ := Exec.plays_checkCancelled_bind h
    · obtain ⟨ran, hran⟩ := runsInOrder_runSteps hrest
      exact ⟨ran, hran.begun, hran.asked, hran.whole, hran.ended, hran.stopped⟩
    · exact ⟨[], List.nil_prefix, rfl, by simp, by simp,
        fun e heq => .inl (Except.error.inj heq).symm⟩
  | .part p :: rest, _, result, h => by
    rw [runSteps] at h
    rcases Exec.plays_bind.1 h with ⟨outcome, share, after, rfl, hp, hrest⟩ | ⟨e, hp, rfl⟩
    · have hmap : (((p, outcome) :: ·) <$> runSteps ctx vars rest).Plays after result := by
        rwa [map_eq_pure_bind]
      obtain ⟨later, hlater, rfl⟩ := Exec.plays_map.1 hmap
      obtain ⟨ran, hran⟩ := runsInOrder_runSteps hlater
      exact ⟨_, hran.cons hp⟩
    · refine ⟨[⟨p, _, .error e, hp⟩], ⟨_, rfl⟩, (List.append_nil _).symm, by simp, ?_, ?_⟩
      · intro one hone e' heq
        rw [List.mem_singleton.1 hone] at heq
        rw [← Except.error.inj heq]
        rfl
      · intro e' heq
        rw [← Except.error.inj heq]
        exact (p.ends_run hp).imp_right fun hunstaged => ⟨_, rfl, hunstaged⟩

/-- The walk over an upgrade file loses nothing. The lines before a command to leave fall into
stretches, and the parts that are run are those of the stretches, in order, each in the database
that the last `use` line before it names, or else in that of the command. Only stretches that have
nothing to run have no part. Which parts there are depends neither on their success nor on anything
the server says: a walk that is not cancelled and whose batches have scratch files comes to its end,
and has run all of them. A part opens sessions only on its database, unless it is a script command
that names others. -/
theorem runs_every_stretch (ctx : Context) (vars : RunVariables) (content : Text) :
    let lines := Text.lines content
    let cut := stretches lines
    let parts := partsOf ctx vars.database cut
    Cuts lines cut ∧
      (∀ stretch ∈ cut, stretch.Spelt →
        ∀ database, stretch.part? ctx database = none ↔ stretch.isDropped = true) ∧
      ∀ events result,
        (Walk.through ctx vars { database := vars.database } lines).Plays events result →
          (Unsaid events → ¬ ReadSet events → (∀ part ∈ parts, ∀ e, ¬ part.Unstaged ctx e) →
            ∃ w, result = .ok w) ∧
          ∃ ran : List (Ran ctx vars),
            RunsInOrder parts events (Walk.ok <$> result) ran ∧
            ∀ one ∈ ran, ∀ e ∈ one.events, ConnectsTo one.part.databases e.action := by
  intro lines cut parts
  refine ⟨cuts_stretches lines, fun stretch hmem hspelt database =>
    Stretch.part?_eq_none ((cuts_stretches lines).sound stretch hmem) hspelt,
    fun events result h => ?_⟩
  have hflag : (Walk.ok <$> Walk.through ctx vars { database := vars.database } lines).Plays events
      (Walk.ok <$> result) := Exec.plays_map.2 ⟨result, h, rfl⟩
  rw [through_eq] at hflag
  obtain ⟨done, hsteps, hdone⟩ := Exec.plays_map.1 hflag
  obtain ⟨ran, hran⟩ := runsInOrder_runSteps hsteps
  have hparts : (plan ctx vars.database [] lines).filterMap Step.part? = parts :=
    filterMap_plan lines vars.database []
  have hresult : allOk <$> done = Walk.ok <$> result := by
    rw [← hdone]
    rfl
  rw [hresult, hparts] at hran
  refine ⟨fun hunsaid hunset hstaged => ?_, ran, hran,
    fun one _ => one.part.only_run _ _ one.plays⟩
  have hends : CutAtRead events result :=
    (Walk.orderly_through (fun _ => .of_all fun _ => trivial) lines _).endsAtRead _ _ h hunsaid
  cases result with
  | ok w => exact ⟨w, rfl⟩
  | error e =>
    obtain ⟨-, hne⟩ | ⟨⟨_, hcut⟩, -⟩ := hends
    · obtain rfl | ⟨one, hlast, hunstaged⟩ := hran.stopped e rfl
      · exact absurd rfl hne
      · have hbegun : one.part ∈ ran.map Ran.part :=
          List.mem_map_of_mem (List.mem_of_getLast? hlast)
        exact absurd hunstaged (hstaged _ (hran.begun.subset hbegun) e)
    · exact absurd hcut.readSet hunset

open Rehearsal

/-- A tree with a script for upgrade files to run. -/
def scriptBeside : Context :=
  { env := oneUpgrade.env
    options := oneUpgrade.options
    files := { entries := [
      (["tmp"], .directory), (["x.sql"], .file (Utf8.encode "select 1\n") 0)] } }

def scriptBesideVars : RunVariables := { source := "/sct_1.sql", database := some "main" }

/-- The walk over a content with the script beside it. -/
def besideWalk (content : Text) : Exec Walk :=
  Walk.through scriptBeside scriptBesideVars { database := scriptBesideVars.database }
    (Text.lines content)

/-- SQL, blank SQL, script commands in the database in force and in one of their own, a statement,
and SQL behind a command to leave. -/
def mixedContent : Text :=
  Text.unlines (["insert", "  ", "go", " ", "go", "use a", "runsql /x.sql!", "USE b;",
    "sp_renametoold t", "runsql /x.sql -Dc!", "update", "exit", "select 2"].map String.toList)

/-- The script command of the mixed content, on databases of its own if it names any. -/
def mixedCommand (databases : List Text) : BuildLine :=
  { command := .runSql, source := some "/x.sql", args := [], sequence := none, databases }

/-- The first part fails, and all others are run. -/
theorem runs_every_stretch_mixed :
    let server : MemoryServer := { failing := [("insert", [])] }
    let trace := (besideWalk mixedContent).run.trace MemoryServer.host server
    let parts : List Part :=
      [.batch (some "main") "insert\n  \n", .embedded (some "a") (mixedCommand []),
        .statement (some "b") "sp_renametoold t", .embedded (some "b") (mixedCommand ["c"]),
        .batch (some "b") "update\n"]
    let databases : List (Option Text) := [some "main", some "a", some "b", some "c", some "b"]
    (∃ ran : List (Ran scriptBeside scriptBesideVars), RunsInOrder parts trace (.ok false) ran) ∧
      (sentTo trace).map Prod.fst = databases := by
  intro server trace parts databases
  have hplays := Run.plays_exec MemoryServer.host (besideWalk mixedContent).run server
  obtain ⟨-, -, hwalk⟩ := runs_every_stretch scriptBeside scriptBesideVars mixedContent
  obtain ⟨-, ran, hran, -⟩ := hwalk _ _ hplays
  have hparts : partsOf scriptBeside scriptBesideVars.database
      (stretches (Text.lines mixedContent)) = parts := by decide +kernel
  have hflag : Walk.ok <$> ((besideWalk mixedContent).run.exec MemoryServer.host server).1 =
      .ok false := by decide +kernel
  rw [hparts, hflag] at hran
  exact ⟨⟨ran, hran⟩, by decide +kernel⟩

/-- A script command may name databases of its own. One whose word is spelt with a long s is found
in the file but is no command. A batch without a scratch file keeps what is behind it from being
run. -/
theorem exceptional_commands :
    let unstaged := { scriptBeside with scratch := fun _ _ => .error (.unmade .notFound) }
    let content := Text.unlines (["insert", "go", "runsql /x.sql!"].map String.toList)
    sentTo ((besideWalk "use a\nrunsql /x.sql -Db!\n").run.trace MemoryServer.host {}) =
        [(some ("b" : Text), ("select 1\n" : Text))] ∧
      UpgradeLine.ofLine "runſql /x.sql!" = .embedded "runſql /x.sql" ∧
      (besideWalk "runſql /x.sql!\n").run.trace MemoryServer.host {} = [⟨.poll, false⟩] ∧
      partsOf unstaged none (stretches (Text.lines content)) =
        [.batch none "insert\n", .embedded none (mixedCommand [])] ∧
      sentTo ((Walk.through unstaged scriptBesideVars { database := none }
        (Text.lines content)).run.trace MemoryServer.host {}) = [] := by
  intro unstaged content
  refine ⟨by decide +kernel, by decide +kernel, rfl, by decide +kernel, by decide +kernel⟩

end Upgrade

end SqlBuild
