import SqlBuild.Proofs.ScriptPreview
import SqlBuild.Run.Upgrade

/-!
# What a script does to the server

A script opens sessions on its database and sends there the batches of its compositions, and that is
all it asks of the server (`Script.only_runText`); a build line does so for each of its databases
(`Script.only_runLine`). Whatever goes wrong in it is counted, and only a cancellation ends it early
(`Script.folds_runLine`).
-/

namespace SqlBuild

namespace Exec

variable {α β : Type}

/-- Only a cancellation ends the run early. -/
def Folds (x : Exec α) : Prop := ∀ events e, x.Plays events (.error e) → e = .cancelled

theorem folds_pure (a : α) : (pure a : Exec α).Folds := by
  rintro events e ⟨-, h⟩
  cases h

theorem folds_lift (r : Run α) : (liftM r : Exec α).Folds := by
  intro events e h
  obtain ⟨_, -, heq⟩ := plays_lift.1 h
  cases heq

theorem Folds.bind {x : Exec α} {f : α → Exec β} (hx : x.Folds) (hf : ∀ a, (f a).Folds) :
    (x >>= f).Folds := by
  intro events e h
  rcases plays_bind.1 h with ⟨a, before, after, rfl, -, ha⟩ | ⟨e', hb, heq⟩
  · exact hf a _ _ ha
  · rw [Except.error.inj heq]
    exact hx _ _ hb

theorem folds_checkCancelled : checkCancelled.Folds := by
  intro events e h
  obtain ⟨-, hcon⟩ | ⟨-, heq⟩ := plays_checkCancelled h
  · cases hcon
  · exact Except.error.inj heq

theorem folds_failWith (message : Text) : (failWith message).Folds := by
  intro events e h
  cases (plays_failWith h).1

/-- Whatever the work is. -/
theorem folds_orFold (work : Exec Outcome) : (orFold work).Folds := by
  refine (folds_lift _).bind fun result => ?_
  cases result with
  | ok outcome => exact folds_pure outcome
  | error e =>
    intro events e' h
    obtain ⟨-, -, heq⟩ | ⟨-, hcon, -⟩ := plays_foldError h
    · exact Except.error.inj heq
    · cases hcon

end Exec

namespace Script

variable {ctx : Context} {vars : RunVariables} {content : Text} {audit : Option Text}

/-- A script that is not started is a failure; otherwise its content is what could be read. -/
theorem run_cases (ctx : Context) (vars : RunVariables) :
    (∃ message, run ctx vars = Exec.failWith message) ∨
      ∃ content, ctx.files.readLossy (ctx.locate vars.source) = .ok content ∧
        run ctx vars = runText ctx vars (audit? ctx "runsql" vars) content := by
  have hsource : (∃ message, runSource ctx vars = Exec.failWith message) ∨
      ∃ content, ctx.files.readLossy (ctx.locate vars.source) = .ok content ∧
        runSource ctx vars = runText ctx vars (audit? ctx "runsql" vars) content := by
    unfold runSource
    dsimp only
    split
    · cases hread : ctx.files.readLossy (ctx.locate vars.source) with
      | ok content => exact .inr ⟨content, rfl, rfl⟩
      | error cause => exact .inl ⟨_, rfl⟩
    · exact .inl ⟨_, rfl⟩
  unfold run
  split
  · split
    · exact hsource
    · exact .inl ⟨_, rfl⟩
  · exact hsource

section Folds

open Exec

theorem folds_iterate (sequence : Option Int) :
    (iterate ctx vars content audit sequence).Folds := by
  refine folds_checkCancelled.bind fun _ => ?_
  dsimp only
  split
  · exact (folds_lift _).bind fun _ => folds_pure true
  · exact (folds_orFold _).bind fun outcome => folds_pure outcome.isSuccess

theorem folds_forValues {work : Int → Exec Bool} (hwork : ∀ n, (work n).Folds) :
    ∀ (count : Nat) (value : Int) (ok : Bool), (forValues work count value ok).Folds
  | 0, _, ok => folds_pure ok
  | count + 1, value, _ => (hwork value).bind fun _ => folds_forValues hwork count (value + 1) _

theorem folds_runText : (runText ctx vars audit content).Folds := by
  unfold runText
  cases vars.sequence with
  | none => exact (folds_iterate none).bind fun _ => folds_pure _
  | some range =>
    exact (folds_forValues (fun n => folds_iterate (some n)) _ _ _).bind fun _ => folds_pure _

theorem folds_run : (run ctx vars).Folds := by
  obtain ⟨message, hrun⟩ | ⟨content, -, hrun⟩ := run_cases ctx vars
  · exact hrun ▸ folds_failWith message
  · exact hrun ▸ folds_runText

theorem folds_runLine (line : BuildLine) : (runLine ctx vars line).Folds := by
  have hdatabases : ∀ (source : Text) (databases : List (Option Text)) (total : Outcome),
      (forDatabases ctx vars line source databases total).Folds := by
    intro source databases
    induction databases with
    | nil => exact fun total => folds_pure total
    | cons database rest ih => exact fun total => folds_run.bind fun outcome => ih _
  unfold runLine
  cases line.source with
  | none => exact folds_failWith _
  | some source => exact hdatabases source _ _

end Folds

section Only

variable {P : Action → Prop}

theorem only_forValues {work : Int → Exec Bool} (hwork : ∀ n, (work n).Only P) :
    ∀ (count : Nat) (value : Int) (ok : Bool), (forValues work count value ok).Only P
  | 0, _, ok => Exec.only_pure ok
  | count + 1, value, _ => (hwork value).bind fun _ => only_forValues hwork count (value + 1) _

variable (hother : ∀ action, (∀ database, action ≠ .connect database) →
  (∀ sql, action ≠ .batch sql) → P action)
include hother

theorem only_toUser {r : Run Unit} (h : r.Only (·.toUser = true)) : r.Only P :=
  h.mono fun action hu =>
    hother action (by rintro database rfl; cases hu) (by rintro sql rfl; cases hu)

theorem only_failWith (message : Text) : (Exec.failWith message).Only P :=
  (Exec.only_lift (only_toUser hother (Run.only_write _))).bind fun _ => Exec.only_pure _

theorem only_foldError (e : ExecError) : (Exec.foldError e).Only P := by
  cases e with
  | cancelled =>
    rintro events result ⟨rfl, -⟩ e he
    cases he
  | _ => exact only_failWith hother _

theorem only_orFold {work : Exec Outcome} (h : work.Only P) : (Exec.orFold work).Only P := by
  refine (Exec.only_lift h).bind ?_
  rintro (e | outcome)
  · exact only_foldError hother e
  · exact Exec.only_pure outcome

theorem only_iterate (hdatabase : P (.connect vars.database)) {sequence : Option Int}
    (hsql : ∀ sql ∈ Batch.split (compose ctx content audit sequence), P (.batch sql)) :
    (iterate ctx vars content audit sequence).Only P := by
  have hexecute : ∀ echo audited,
      (execute (compose ctx content audit sequence) vars.database echo audited).Only P := by
    intro echo audited
    refine Exec.only_withSession hdatabase (hother _ (by simp) (by simp))
      (fun _ => hother _ (by simp) (by simp)) ?_
    refine (Batch.only_runFrom (fun index batch result => ?_) (hother _ (by simp) (by simp)) _ 0
      hsql).bind fun _ => Exec.only_pure _
    exact only_toUser hother (only_showBatch echo audited index batch result)
  refine (Exec.only_checkCancelled (hother _ (by simp) (by simp))).bind fun _ => ?_
  dsimp only
  split
  · exact (Exec.only_lift (only_toUser hother (Run.only_emit _))).bind fun _ => Exec.only_pure true
  · refine Exec.Only.bind ?_ fun outcome => Exec.only_pure outcome.isSuccess
    exact only_orFold hother ((hexecute vars.echo audit.isSome).bind
      fun ok => Exec.only_pure (Outcome.unit ok))

/-- The batches of a script are those of its compositions. -/
theorem only_runText (hdatabase : P (.connect vars.database))
    (hsql : ∀ sequence, ∀ sql ∈ Batch.split (compose ctx content audit sequence), P (.batch sql)) :
    (runText ctx vars audit content).Only P := by
  unfold runText
  cases vars.sequence with
  | none => exact (only_iterate hother hdatabase (hsql none)).bind fun _ => Exec.only_pure _
  | some range =>
    exact (only_forValues (fun n => only_iterate hother hdatabase (hsql (some n))) _ _ _).bind
      fun _ => Exec.only_pure _

theorem only_run (hdatabase : P (.connect vars.database))
    (hsql : ∀ content, ctx.files.readLossy (ctx.locate vars.source) = .ok content →
      ∀ sequence, ∀ sql ∈ Batch.split (compose ctx content (audit? ctx "runsql" vars) sequence),
        P (.batch sql)) :
    (run ctx vars).Only P := by
  obtain ⟨message, hrun⟩ | ⟨content, hread, hrun⟩ := run_cases ctx vars
  · exact hrun ▸ only_failWith hother message
  · exact hrun ▸ only_runText hother hdatabase (hsql content hread)

/-- A build line may send anything to its databases. -/
theorem only_runLine (hbatch : ∀ sql, P (.batch sql)) (line : BuildLine)
    (hdatabase : ∀ database ∈ databases vars line, P (.connect database)) :
    (runLine ctx vars line).Only P := by
  have hdatabases : ∀ (source : Text) (databases : List (Option Text)) (total : Outcome),
      (∀ database ∈ databases, P (.connect database)) →
        (forDatabases ctx vars line source databases total).Only P := by
    intro source databases
    induction databases with
    | nil => exact fun total _ => Exec.only_pure total
    | cons database rest ih =>
      intro total h
      rw [List.forall_mem_cons] at h
      exact (only_run hother h.1 fun _ _ _ sql _ => hbatch sql).bind fun outcome => ih _ h.2
  unfold runLine
  cases line.source with
  | none => exact only_failWith hother _
  | some source => exact hdatabases source _ _ hdatabase

end Only

end Script

end SqlBuild
