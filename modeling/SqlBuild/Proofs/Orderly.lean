import SqlBuild.Proofs.ScriptPreview
import SqlBuild.Proofs.UpgradeCompletion
import SqlBuild.Run.Build

/-!
# Orderly runs

The runs of the program are put together in a few ways only. Outside of a session they tell the user
something, look at the token, hold a session, or attempt a piece of work whose error they may turn
into something else, but never a cancellation (`Exec.Orderly`). Inside a session they ask the
server, look at the token, and end with a cancellation only when one of these has brought it
(`Exec.InSession`). Every runner is orderly (`Runner.orderly`), so what is kept by these few ways of
putting runs together holds of all of them.

What a run may ask of the server is a parameter: in preview it may ask nothing, and a script does
not ask for return codes.
-/

namespace SqlBuild

/-- Whether an action is done inside a session; looks at the token are a matter of their own. -/
def Action.inSession : Action → Bool
  | connect _ | disconnect | poll => false
  | _ => true

theorem Action.inSession_of_toUser {action : Action} (h : action.toUser = true) :
    action.inSession = true := by
  cases action with
  | print _ | warn _ => rfl
  | _ => cases h

/-- Whether the server itself says that the run has been cancelled. -/
def Event.saysCancelled : Event → Bool
  | ⟨.connect _, .error .cancelled⟩ => true
  | ⟨.returnCode _, .error .cancelled⟩ => true
  | ⟨.columns _, .error .cancelled⟩ => true
  | ⟨.load .., ⟨_, .error .cancelled⟩⟩ => true
  | ⟨.unload _, ⟨_, .error .cancelled⟩⟩ => true
  | _ => false

namespace Run

variable {α β : Type} {P : Action → Prop}

theorem Only.map {r : Run α} (h : r.Only P) (f : α → β) : (f <$> r).Only P := by
  intro events b hp
  obtain ⟨a, hr, -⟩ := plays_map.1 hp
  exact h events a hr

end Run

namespace Exec

/-- What may be done inside a session beside looking at the token: what `may` be asked of the
server, and messages to the user. -/
def Within (may : Action → Prop) (action : Action) : Prop :=
  action.inSession = true ∧ (action.toUser = true ∨ may action)

/-- Work inside a session. -/
inductive InSession (may : Action → Prop) : {α : Type} → Exec α → Prop
  | request {α : Type} {r : Run (Except ExecError α)} (only : r.Only (Within may))
      (cancelled : ∀ events, r.Plays events (.error .cancelled) →
        ∃ e ∈ events, e.saysCancelled = true) : InSession may (ofRun r)
  | poll : InSession may checkCancelled
  | bind {α β : Type} {x : Exec α} {f : α → Exec β} (first : InSession may x)
      (next : ∀ a, InSession may (f a)) : InSession may (x >>= f)

/-- Work outside of sessions. -/
inductive Orderly (may : Action → Prop) : {α : Type} → Exec α → Prop
  | tell {α : Type} {r : Run (Except ExecError α)} (only : r.Only (·.toUser = true))
      (goesOn : ∀ events, ¬ r.Plays events (.error .cancelled)) : Orderly may (ofRun r)
  | poll : Orderly may checkCancelled
  | bind {α β : Type} {x : Exec α} {f : α → Exec β} (first : Orderly may x)
      (next : ∀ a, Orderly may (f a)) : Orderly may (x >>= f)
  | session {α : Type} {work : Exec α} (database : Option Text) (allowed : may (.connect database))
      (inside : InSession may work) : Orderly may (withSession database work)
  | attempt {α β : Type} {x : Exec α} {handle : Except ExecError α → Exec β}
      (work : Orderly may x) (passes : handle (.error .cancelled) = throw .cancelled)
      (handled : ∀ r, r ≠ .error .cancelled → Orderly may (handle r)) :
      Orderly may (liftM x.run >>= handle)

section

variable {α β : Type} {may : Action → Prop}

theorem Within.of_toUser {action : Action} (h : action.toUser = true) : Within may action :=
  ⟨Action.inSession_of_toUser h, .inl h⟩

namespace InSession

theorem pure (a : α) : InSession may (Pure.pure a : Exec α) :=
  request (r := .done (.ok a)) (Run.only_done _) fun _ h => by cases h.2

theorem fail {e : ExecError} (h : e ≠ .cancelled) : InSession may (throw e : Exec α) :=
  request (r := .done (.error e)) (Run.only_done _) fun _ hp => absurd (Except.error.inj hp.2) h

/-- What has no error of its own. -/
theorem lift {r : Run α} (h : r.Only (Within may)) : InSession may (liftM r : Exec α) :=
  request (h.map Except.ok) fun _ hp => by
    obtain ⟨_, -, heq⟩ := Run.plays_map.1 hp
    cases heq

theorem tell {r : Run α} (h : r.Only (·.toUser = true)) : InSession may (liftM r : Exec α) :=
  lift (h.mono fun _ => Within.of_toUser)

theorem sendBatch {sql : Text} (h : may (.batch sql)) :
    InSession may (liftM (Run.batch sql) : Exec BatchResult) :=
  lift (Run.only_act ⟨rfl, .inr h⟩)

theorem batch {sql : Text} (h : may (.batch sql)) : InSession may (Exec.batch sql) := by
  refine bind (sendBatch h) fun result => ?_
  cases result with
  | ok text => exact pure text
  | error e => exact fail (by simp)

theorem returnCode {call : Text} (h : may (.returnCode call)) :
    InSession may (Exec.returnCode call) :=
  request (Run.only_act ⟨rfl, .inr h⟩) fun _ hp =>
    ⟨_, (Run.plays_act (.returnCode call)).1 hp ▸ List.mem_singleton_self _, rfl⟩

/-- The work asks only what it may. -/
theorem plays_only {work : Exec α} (h : InSession may work) :
    work.Only fun action => Within may action ∨ action = .poll := by
  induction h with
  | request only _ => exact only_ofRun (only.mono fun _ => .inl)
  | poll => exact only_checkCancelled (.inr rfl)
  | bind _ _ ihFirst ihNext => exact ihFirst.bind ihNext

end InSession

namespace Orderly

theorem pure (a : α) : Orderly may (Pure.pure a : Exec α) :=
  tell (r := .done (.ok a)) (Run.only_done _) fun _ h => by cases h.2

theorem fail {e : ExecError} (h : e ≠ .cancelled) : Orderly may (throw e : Exec α) :=
  tell (r := .done (.error e)) (Run.only_done _) fun _ hp => absurd (Except.error.inj hp.2) h

/-- Messages to the user. -/
theorem lift {r : Run α} (h : r.Only (·.toUser = true)) : Orderly may (liftM r : Exec α) :=
  tell (h.map Except.ok) fun _ hp => by
    obtain ⟨_, -, heq⟩ := Run.plays_map.1 hp
    cases heq

theorem emit (text : Text) : Orderly may (liftM (Run.emit text) : Exec Unit) :=
  lift (Run.only_emit text)

theorem reportError (message : Text) :
    Orderly may (liftM (Run.reportError message) : Exec Unit) :=
  lift (Run.only_write _)

theorem failWith (message : Text) : Orderly may (failWith message) :=
  bind (reportError message) fun _ => pure _

theorem foldError {e : ExecError} (h : e ≠ .cancelled) : Orderly may (foldError e) := by
  cases e with
  | cancelled => exact absurd rfl h
  | _ => exact failWith _

theorem orFold {work : Exec Outcome} (h : Orderly may work) : Orderly may (orFold work) := by
  refine attempt h rfl fun r hr => ?_
  cases r with
  | ok outcome => exact pure outcome
  | error e => exact foldError fun he => hr (he ▸ rfl)

end Orderly

end

end Exec

open Exec

variable {ctx : Context} {vars : RunVariables} {may : Action → Prop}

/-- Sessions may be opened and batches be sent. -/
structure MaySend (may : Action → Prop) : Prop where
  connect : ∀ database, may (.connect database)
  batch : ∀ sql, may (.batch sql)

theorem MaySend.of_all (h : ∀ action, may action) : MaySend may :=
  ⟨fun _ => h _, fun _ => h _⟩

namespace Batch

theorem inSession_runFrom (h : ∀ sql, may (.batch sql))
    {observe : Nat → Text → BatchResult → Run Unit}
    (hobs : ∀ index batch result, (observe index batch result).Only (·.toUser = true)) :
    ∀ (batches : List Text) (index : Nat), InSession may (runFrom observe index batches)
  | [], _ => .pure []
  | batch :: rest, index => by
    rw [runFrom]
    split
    · exact .pure []
    · refine .bind .poll fun _ => .bind (.sendBatch (h batch)) fun result => ?_
      refine .bind (.tell (hobs _ _ _)) fun _ => ?_
      exact .bind (inSession_runFrom h hobs rest _) fun _ => .pure _

theorem orderly_runOnce (h : MaySend may) (sql : Text) (database : Option Text) :
    Orderly may (runOnce sql database) :=
  .session database (h.connect database)
    (.bind (inSession_runFrom h.batch (fun _ _ _ => Run.only_done ()) _ _) fun _ => .pure _)

end Batch

theorem Audit.orderly_write (h : MaySend may) (ctx : Context) (program : Text)
    (vars : RunVariables) : Orderly may (Audit.write ctx program vars) := by
  refine .attempt (Batch.orderly_runOnce h _ _) rfl fun r hr => ?_
  cases r with
  | ok report =>
    dsimp only
    split
    · exact .pure ()
    · exact .bind (.lift (Run.only_act rfl)) fun _ => .reportError _
  | error e => exact .bind (.foldError fun he => hr (he ▸ rfl)) fun _ => .pure ()

/-- Work that is begun with an audit entry, if the entry is due. -/
theorem Audit.orderly_first (h : vars.preview = false → MaySend may) (program : Text)
    {work : Exec Outcome} (hwork : Orderly may work) :
    Orderly may (do
      if vars.changelog && !ctx.env.rawMode && !vars.preview then Audit.write ctx program vars
      work) := by
  dsimp only
  split
  · rename_i hdue
    simp only [Bool.and_eq_true, Bool.not_eq_true'] at hdue
    exact .bind (orderly_write (h hdue.2) _ _ _) fun _ => hwork
  · exact hwork

namespace Script

theorem orderly_execute (h : MaySend may) (sql : Text) (database : Option Text)
    (echo audited : Bool) : Orderly may (execute sql database echo audited) :=
  .session database (h.connect database)
    (.bind (Batch.inSession_runFrom h.batch (only_showBatch echo audited) _ _) fun _ => .pure _)

theorem orderly_iterate (h : vars.preview = false → MaySend may) (content : Text)
    (audit : Option Text) (sequence : Option Int) :
    Orderly may (iterate ctx vars content audit sequence) := by
  refine .bind .poll fun _ => ?_
  cases hp : vars.preview with
  | true => exact .bind (.emit _) fun _ => .pure true
  | false =>
    refine .bind (.orFold (.bind (orderly_execute (h hp) _ _ _ _) fun _ => .pure _)) fun _ => ?_
    exact .pure _

theorem orderly_forValues {work : Int → Exec Bool} (hwork : ∀ n, Orderly may (work n)) :
    ∀ (count : Nat) (value : Int) (ok : Bool), Orderly may (forValues work count value ok)
  | 0, _, ok => .pure ok
  | count + 1, value, _ =>
    .bind (hwork value) fun _ => orderly_forValues hwork count (value + 1) _

theorem orderly_runText (h : vars.preview = false → MaySend may) (audit : Option Text)
    (content : Text) : Orderly may (runText ctx vars audit content) := by
  unfold runText
  split
  · exact .bind (orderly_iterate h _ _ _) fun _ => .pure _
  · exact .bind (orderly_forValues (fun _ => orderly_iterate h _ _ _) _ _ _) fun _ => .pure _

theorem orderly_run (h : vars.preview = false → MaySend may) : Orderly may (run ctx vars) := by
  have hsource : Orderly may (runSource ctx vars) := by
    unfold runSource
    dsimp only
    split
    · split
      · exact orderly_runText h _ _
      · exact .failWith _
    · exact .failWith _
  unfold run
  split
  · split
    · exact hsource
    · exact .failWith _
  · exact hsource

theorem orderly_forDatabases (h : vars.preview = false → MaySend may) (line : BuildLine)
    (source : Text) : ∀ (databases : List (Option Text)) (total : Outcome),
      Orderly may (forDatabases ctx vars line source databases total)
  | [], total => .pure total
  | _ :: rest, _ => .bind (orderly_run h) fun _ => orderly_forDatabases h line source rest _

theorem orderly_runLine (h : vars.preview = false → MaySend may) (line : BuildLine) :
    Orderly may (runLine ctx vars line) := by
  unfold runLine
  split
  · exact .failWith _
  · exact orderly_forDatabases h line _ _ _

end Script

theorem Inline.orderly_run (h : vars.preview = false → MaySend may) :
    Orderly may (Inline.run ctx vars) := by
  have hafter : Orderly may (if vars.preview then do
      liftM (Run.emit (compose (ctx.resolveWord vars.source)))
      return .success
    else Exec.orFold do
      let report ← Batch.runOnce (compose (ctx.resolveWord vars.source)) vars.database
      liftM (Run.emit report.output)
      if !report.success then liftM (Run.reportError "One or more batches failed.")
      return .unit report.success) := by
    cases hp : vars.preview with
    | true => exact .bind (.emit _) fun _ => .pure _
    | false =>
      refine .orFold (.bind (Batch.orderly_runOnce (h hp) _ _) fun report => ?_)
      refine .bind (.emit _) fun _ => ?_
      split
      · exact .bind (.reportError _) fun _ => .pure _
      · exact .pure _
  unfold Inline.run
  dsimp only
  split
  · exact .bind (.emit _) fun _ => hafter
  · exact hafter

namespace Upgrade

theorem orderly_check (h : ∀ action, may action) (id : Text) (database : Option Text) :
    Orderly may (check ctx id database) :=
  .session database (h _) (.bind (.returnCode (h _)) fun _ => .pure _)

theorem orderly_record (h : MaySend may) (id : Text) (database : Option Text) :
    Orderly may (record ctx id database) := by
  rw [record_eq]
  refine .attempt (Batch.orderly_runOnce h _ _) rfl fun r hr => ?_
  cases r with
  | ok report =>
    rw [tellRecorded]
    split
    · exact .pure ()
    · exact .reportError _
  | error e => exact .bind (.foldError fun he => hr (he ▸ rfl)) fun _ => .pure ()

namespace Walk

theorem orderly_runBatch (h : vars.preview = false → MaySend may) (database : Option Text)
    (sql : Text) : Orderly may (runBatch ctx vars database sql) := by
  unfold runBatch
  split
  · exact Script.orderly_run (by exact h)
  · exact .fail nofun

theorem orderly_flush (h : vars.preview = false → MaySend may) (w : Walk) :
    Orderly may (w.flush ctx vars) := by
  unfold flush
  dsimp only
  split
  · exact .pure _
  · exact .bind (orderly_runBatch h _ _) fun _ => .pure _

theorem orderly_embedded (h : vars.preview = false → MaySend may) (w : Walk) (command : Text) :
    Orderly may (w.embedded ctx vars command) := by
  unfold embedded
  split
  · exact .bind (Script.orderly_runLine (by exact h) _) fun _ => .pure _
  · exact .pure _

theorem orderly_statement (h : vars.preview = false → MaySend may) (w : Walk) (line : Text) :
    Orderly may (w.statement ctx vars line) := by
  unfold statement
  cases hp : vars.preview with
  | true => exact .bind (.emit _) fun _ => .pure _
  | false =>
    refine .bind (.orFold (.bind (Batch.orderly_runOnce (h hp) _ _) fun _ =>
      .bind (.emit _) fun _ => .pure _)) fun outcome => ?_
    split
    · exact .bind (.reportError _) fun _ => .pure _
    · exact .pure _

theorem orderly_through (h : vars.preview = false → MaySend may) :
    ∀ (lines : List Text) (w : Walk), Orderly may (through ctx vars w lines)
  | [], w => orderly_flush h w
  | line :: rest, w => by
    rw [through]
    refine .bind .poll fun _ => ?_
    cases UpgradeLine.ofLine line with
    | exit => exact orderly_flush h w
    | use database => exact .bind (orderly_flush h w) fun _ => orderly_through h rest _
    | embedded command =>
      exact .bind (orderly_flush h w) fun _ =>
        .bind (orderly_embedded h _ command) fun _ => orderly_through h rest _
    | rename =>
      exact .bind (orderly_flush h w) fun _ =>
        .bind (orderly_statement h _ line) fun _ => orderly_through h rest _
    | terminator => exact .bind (orderly_flush h w) fun _ => orderly_through h rest _
    | sql => exact orderly_through h rest _

end Walk

theorem orderly_applyText (h : vars.preview = false → MaySend may) (id content : Text) :
    Orderly may (applyText ctx vars id content) := by
  refine .bind (Walk.orderly_through h _ _) fun w => ?_
  split
  · cases hp : vars.preview with
    | true => exact .pure _
    | false => exact .bind (orderly_record (h hp) _ _) fun _ => .pure _
  · exact .failWith _

theorem orderly_applyFile (h : vars.preview = false → MaySend may) (id path : Text) :
    Orderly may (applyFile ctx vars id path) := by
  unfold applyFile
  refine Audit.orderly_first h _ ?_
  split
  · exact orderly_applyText h _ _
  · exact .failWith _

theorem orderly_applyChecked (h : vars.preview = false → ∀ action, may action)
    (hreal : vars.preview = false) (id path : Text) :
    Orderly may (applyChecked ctx vars id path) := by
  refine .attempt (orderly_check (h hreal) _ _) rfl fun r hr => ?_
  match r with
  | .error e => exact .foldError fun he => hr (he ▸ rfl)
  | .ok .unknown => exact .failWith _
  | .ok .applied => exact .failWith _
  | .ok .pending => exact orderly_applyFile (fun hp => .of_all (h hp)) _ _

theorem orderly_run (h : vars.preview = false → ∀ action, may action) :
    Orderly may (run ctx vars) := by
  unfold run
  split
  · exact .failWith _
  · dsimp only
    split
    · split
      · exact orderly_applyFile (fun hp => .of_all (h hp)) _ _
      · rename_i hp
        exact orderly_applyChecked h (by simpa using hp) _ _
    · exact .failWith _

end Upgrade

namespace Bulk

theorem only_load (h : ∀ action, may action) (table : Text) (file : Except IoError DataFile) :
    (load table file).Only (Within may) := by
  have hcolumns : (Exec.columns table).run.Only (Within may) := Run.only_act ⟨rfl, .inr (h _)⟩
  refine hcolumns.bind fun reply => ?_
  cases reply with
  | error e => exact Run.only_done _
  | ok columns =>
    dsimp only
    split
    · exact Run.only_done _
    · cases file with
      | error e => exact Run.only_done _
      | ok file =>
        have hload : (Run.act (.load table columns (file.stream columns))).Only (Within may) :=
          Run.only_act ⟨rfl, .inr (h _)⟩
        refine hload.bind fun transfer => ?_
        cases transfer.result <;> cases file.failure <;> exact Run.only_done _

/-- A transfer is cancelled only by the server. -/
theorem cancelled_of_load {table : Text} {file : Except IoError DataFile} {events : List Event}
    {transfer : Transfer} (h : (load table file).Plays events transfer)
    (hc : transfer.result = .error .cancelled) : ∃ e ∈ events, e.saysCancelled = true := by
  obtain ⟨reply, before, after, rfl, hb, ha⟩ := Run.plays_bind.1 h
  obtain rfl := (Run.plays_act (.columns table)).1 hb
  cases reply with
  | error e =>
    obtain ⟨rfl, rfl⟩ := ha
    obtain rfl := Except.error.inj hc
    exact ⟨_, List.mem_cons_self, rfl⟩
  | ok columns =>
    dsimp only at ha
    split at ha
    · obtain ⟨rfl, rfl⟩ := ha
      cases hc
    · cases file with
      | error e =>
        obtain ⟨rfl, rfl⟩ := ha
        cases hc
      | ok file =>
        obtain ⟨answer, during, rest, rfl, hl, hend⟩ := Run.plays_bind.1 ha
        obtain rfl := (Run.plays_act (.load table columns (file.stream columns))).1 hl
        obtain ⟨moved, result⟩ := answer
        cases result with
        | error e =>
          obtain ⟨rfl, rfl⟩ := hend
          obtain rfl := Except.error.inj hc
          exact ⟨_, List.mem_append_right _ List.mem_cons_self, rfl⟩
        | ok count =>
          cases hf : file.failure with
          | none =>
            rw [hf] at hend
            obtain ⟨rfl, rfl⟩ := hend
            cases hc
          | some e =>
            rw [hf] at hend
            obtain ⟨rfl, rfl⟩ := hend
            cases hc

end Bulk

namespace Compiler

/-- With its data file a table is filled by one transfer. -/
theorem fillTable_eq {rows : List Row} {name : Text} {files : FileTree}
    (h : ctx.scratch .rows (dataText rows) = .ok (name, files)) (table : Text) :
    fillTable ctx table rows = (fun _ => ()) <$> Exec.ofRun
      (Transfer.result <$> Bulk.load table (DataFile.find files name)) := by
  unfold fillTable
  rw [h]
  refine ExceptT.ext ((ExceptT.run_bind_lift _ _).trans ?_)
  rw [ExceptT.run_map, Exec.ofRun, ExceptT.run, Functor.map_map, map_eq_pure_bind]
  refine congrArg _ (funext fun transfer => ?_)
  cases transfer.result <;> rfl

theorem inSession_fillTable (h : ∀ action, may action) (table : Text) (rows : List Row) :
    InSession may (fillTable ctx table rows) := by
  cases hfile : ctx.scratch .rows (dataText rows) with
  | error e =>
    unfold fillTable
    rw [hfile]
    exact .fail nofun
  | ok file =>
    rw [fillTable_eq hfile, map_eq_pure_bind]
    refine .bind (.request ((Bulk.only_load h _ _).map _) ?_) fun _ => .pure ()
    intro events hp
    obtain ⟨transfer, hl, hc⟩ := Run.plays_map.1 hp
    exact Bulk.cancelled_of_load hl hc

theorem inSession_loadTable (h : ∀ action, may action) (table : Text) (rows : List Row) :
    InSession may (loadTable ctx table rows) :=
  .bind (.batch (h _)) fun _ => inSession_fillTable h table rows

theorem inSession_loadAll (h : ∀ action, may action) (kind : CompilerKind) :
    ∀ loads : List WorkTable, InSession may (loadAll ctx kind loads)
  | [] => .pure ()
  | _ :: rest =>
    .bind .poll fun _ => .bind (inSession_loadTable h _ _) fun _ =>
      .bind (.tell (Run.only_emit _)) fun _ => inSession_loadAll h kind rest

theorem orderly_apply (h : ∀ action, may action) (kind : CompilerKind) (plan : CompilePlan) :
    Orderly may (apply ctx kind plan) :=
  .session none (h _) (.bind (inSession_loadAll h kind _) fun _ => .bind .poll fun _ =>
    .bind (.batch (h _)) fun _ => .tell (Run.only_emit _))

theorem orderly_follow (h : ∀ action, may action) (kind : CompilerKind) (plan : CompilePlan) :
    Orderly may (follow ctx kind plan) := by
  refine .attempt (orderly_apply h kind plan) rfl fun r hr => ?_
  cases r with
  | ok _ => exact .bind (.emit _) fun _ => .pure _
  | error e =>
    cases e with
    | cancelled => exact absurd rfl hr
    | _ => exact .failWith _

theorem only_warnAll : ∀ warnings : List Text, (warnAll warnings).Only (·.toUser = true)
  | [] => Run.only_done ()
  | text :: rest => by
    have hwarn : (Run.warn text).Only (·.toUser = true) := Run.only_act rfl
    exact hwarn.bind fun _ => only_warnAll rest

theorem orderly_run (h : ∀ action, may action) (kind : CompilerKind) :
    Orderly may (run ctx kind) := by
  unfold run
  split
  · exact .pure _
  · refine .bind (.lift (only_warnAll _)) fun _ => ?_
    split
    · exact orderly_follow h kind _
    · exact .failWith _

end Compiler

namespace Build

theorem orderly_runUpgradeLine (h : vars.preview = false → ∀ action, may action)
    (line : BuildLine) : Orderly may (runUpgradeLine ctx vars line) := by
  unfold runUpgradeLine
  split
  · exact .failWith _
  · exact Upgrade.orderly_run h

theorem orderly_runCompilerLine (h : vars.preview = false → ∀ action, may action)
    (kind : CompilerKind) : Orderly may (runCompilerLine ctx vars kind) := by
  unfold runCompilerLine
  split
  · exact .bind (.emit _) fun _ => .pure _
  · rename_i hp
    exact Compiler.orderly_run (h (by simpa using hp)) kind

theorem orderly_dispatch (h : vars.preview = false → ∀ action, may action)
    {enter : RunVariables → Exec Outcome}
    (henter : ∀ source, Orderly may (enter (vars.nested source))) (line : BuildLine) :
    Orderly may (dispatch ctx vars enter line) := by
  unfold dispatch
  split
  · exact Script.orderly_runLine (fun hp => .of_all (h hp)) line
  · unfold runCreateLine
    split
    · exact .failWith _
    · exact henter _
  · exact orderly_runUpgradeLine h line
  · exact orderly_runCompilerLine h _

theorem orderly_runLines (h : vars.preview = false → ∀ action, may action)
    {enter : RunVariables → Exec Outcome}
    (henter : ∀ source, Orderly may (enter (vars.nested source))) :
    ∀ (lines : List Text) (total : Outcome), Orderly may (runLines ctx vars enter lines total)
  | [], total => .pure total
  | line :: rest, total => by
    rw [runLines]
    refine .bind .poll fun _ => ?_
    split
    · exact .bind (orderly_dispatch h henter _) fun _ => orderly_runLines h henter rest _
    · exact orderly_runLines h henter rest total

theorem orderly_runScript : ∀ (depth : Nat) (stack : List Text) {vars : RunVariables},
    (vars.preview = false → ∀ action, may action) → Orderly may (runScript ctx depth stack vars)
  | 0, stack, vars, h => by
    rw [runScript_zero]
    dsimp only
    split
    · exact .failWith _
    · split <;> exact .failWith _
  | depth + 1, stack, vars, h => by
    rw [runScript_succ]
    dsimp only
    split
    · exact .failWith _
    · split
      · exact .failWith _
      · split
        · exact .failWith _
        · exact orderly_runLines h (fun _ => orderly_runScript depth _ h) _ _

theorem orderly_run (h : vars.preview = false → ∀ action, may action) :
    Orderly may (run ctx vars) := by
  unfold run
  refine Audit.orderly_first (fun hp => .of_all (h hp)) _ ?_
  exact .bind (orderly_runScript _ _ h) fun _ => .bind (.emit _) fun _ => .pure _

end Build

/-- What can be run: a script, an inline command, a build, an upgrade, or a compiler on its own. -/
inductive Runner
  | script (vars : RunVariables)
  | inlineSql (vars : RunVariables)
  | build (vars : RunVariables)
  | upgrade (vars : RunVariables)
  | compiler (kind : CompilerKind)

def Runner.run (ctx : Context) : Runner → Exec Outcome
  | script vars => Script.run ctx vars
  | inlineSql vars => Inline.run ctx vars
  | build vars => Build.run ctx vars
  | upgrade vars => Upgrade.run ctx vars
  | compiler kind => Compiler.run ctx kind

theorem Runner.orderly (ctx : Context) : ∀ runner : Runner, Orderly (fun _ => True) (runner.run ctx)
  | script _ => Script.orderly_run fun _ => .of_all fun _ => trivial
  | inlineSql _ => Inline.orderly_run fun _ => .of_all fun _ => trivial
  | build _ => Build.orderly_run fun _ _ => trivial
  | upgrade _ => Upgrade.orderly_run fun _ _ => trivial
  | compiler kind => Compiler.orderly_run (fun _ => trivial) kind

end SqlBuild
