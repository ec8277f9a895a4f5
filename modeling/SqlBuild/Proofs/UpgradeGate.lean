import SqlBuild.Proofs.UpgradeCompletion
import SqlBuild.Proofs.UpgradeParts
import SqlBuild.Rehearsal.MemoryServer

/-!
# The gate of an upgrade

An upgrade asks the server before it sends anything, and its completion comes after everything else.
So a run is an attempt and then an end (`run_eq`): the attempt is the check, the audit entry and the
parts of the file; the end is the completion when the attempt got through with every part
successful, and the report of a failure when not (`gate`).
-/

namespace SqlBuild

namespace Upgrade

/-- The number of the upgrade a command names. -/
def number? (vars : RunVariables) : Option Text :=
  vars.upgradeNumber <|> UpgradeName.number? vars.source

/-- An upgrade that was let through: its number and its parts with their outcomes. -/
structure Attempt where
  id : Text
  parts : List (Part × Outcome)

/-- Reports why an upgrade is not attempted. -/
def refuse (message : Text) : Exec (Option Attempt) := do
  let _ ← Exec.failWith message
  return none

/-- The parts of the file, if it can be read. -/
def attemptParts (ctx : Context) (vars : RunVariables) (id path : Text) : Exec (Option Attempt) :=
  match ctx.files.readLossy path with
  | .ok content => do
    let done ← runSteps ctx vars (plan ctx vars.database [] (Text.lines content))
    return some ⟨id, done⟩
  | .error cause => refuse (readFailure path cause)

/-- The audit entry, if there is one, and then the parts of the file. -/
def attemptFile (ctx : Context) (vars : RunVariables) (id path : Text) : Exec (Option Attempt) := do
  if vars.changelog && !ctx.env.rawMode && !vars.preview then
    Audit.write ctx "i_run_upgrade" vars
  attemptParts ctx vars id path

/-- What follows the answer to the check. -/
def attemptAfter (ctx : Context) (vars : RunVariables) (id path : Text) :
    Except ExecError Status → Exec (Option Attempt)
  | .error e => do
    let _ ← Exec.foldError e
    return none
  | .ok .unknown => refuse ("Upgrade control record for upgrade " ++ id ++ " is missing.")
  | .ok .applied => refuse ("Upgrade " ++ id ++ " has already been applied.")
  | .ok .pending => attemptFile ctx vars id path

/-- All of an upgrade that comes before its end; nothing when the upgrade is refused. -/
def attempt (ctx : Context) (vars : RunVariables) : Exec (Option Attempt) :=
  match number? vars with
  | none => refuse (unnumbered vars.source)
  | some id =>
    let path := ctx.locate vars.source
    if ctx.files.isFile path then do
      let status ← liftM (check ctx id vars.database).run
      attemptAfter ctx vars id path status
    else refuse ("Upgrade file not found: '" ++ path ++ "'")

/-- The end of an upgrade. -/
def finish (ctx : Context) (vars : RunVariables) : Option Attempt → Exec Outcome
  | none => pure .failure
  | some a =>
    if allOk a.parts then do
      record ctx a.id vars.database
      return .success
    else Exec.failWith ("Upgrade " ++ a.id ++ " failed; it is not marked as applied.")

theorem refuse_finish (ctx : Context) (vars : RunVariables) (message : Text) :
    refuse message >>= finish ctx vars = Exec.failWith message := by
  simp [refuse, finish, Exec.failWith]

open Rehearsal

variable {ctx : Context} {vars : RunVariables}

theorem foldError_finish (e : ExecError) :
    (do
      let _ ← Exec.foldError e
      return none) >>= finish ctx vars = Exec.foldError e := by
  cases e with
  | cancelled => rfl
  | _ => simp [Exec.foldError, finish, Exec.failWith]

theorem applyText_eq (hp : vars.preview = false) (id content : Text) :
    applyText ctx vars id content = (do
      let done ← runSteps ctx vars (plan ctx vars.database [] (Text.lines content))
      return some ⟨id, done⟩) >>= finish ctx vars := by
  have hwalk : Walk.ok <$> Walk.through ctx vars { database := vars.database } (Text.lines content)
      = _ := through_eq _ _
  let next : Bool → Exec Outcome := fun ok =>
    if ok then do
      record ctx id vars.database
      return .success
    else Exec.failWith ("Upgrade " ++ id ++ " failed; it is not marked as applied.")
  calc applyText ctx vars id content
      = (Walk.ok <$> Walk.through ctx vars { database := vars.database } (Text.lines content)) >>=
          next := by
        rw [bind_map_left, applyText]
        simp only [hp, Bool.not_false, if_true]
    _ = _ := by
        rw [hwalk, bind_map_left, bind_assoc]
        simp only [pure_bind, Bool.true_and]
        rfl

theorem applyFile_eq (hp : vars.preview = false) (id path : Text) :
    applyFile ctx vars id path = attemptFile ctx vars id path >>= finish ctx vars := by
  rw [applyFile, attemptFile, attemptParts]
  cases ctx.files.readLossy path with
  | ok content =>
    simp only [applyText_eq hp id content]
    split <;> simp only [bind_assoc]
  | error cause =>
    simp only [← refuse_finish ctx vars]
    split <;> simp only [bind_assoc]

theorem applyChecked_eq (hp : vars.preview = false) (id path : Text) :
    applyChecked ctx vars id path = (do
      let status ← liftM (check ctx id vars.database).run
      attemptAfter ctx vars id path status) >>= finish ctx vars := by
  rw [applyChecked, bind_assoc]
  refine congrArg _ (funext fun status => ?_)
  match status with
  | .error e => exact (foldError_finish e).symm
  | .ok .unknown => exact (refuse_finish _ _ _).symm
  | .ok .applied => exact (refuse_finish _ _ _).symm
  | .ok .pending => exact applyFile_eq hp id path

/-- A run is an attempt and then an end. -/
theorem run_eq (hp : vars.preview = false) :
    run ctx vars = attempt ctx vars >>= finish ctx vars := by
  unfold run attempt
  cases hid : number? vars with
  | none =>
    rw [number?] at hid
    rw [hid]
    exact (refuse_finish _ _ _).symm
  | some id =>
    rw [number?] at hid
    rw [hid]
    by_cases hf : ctx.files.isFile (ctx.locate vars.source) = true
    · simp only [hf, hp, if_true]
      exact applyChecked_eq hp id _
    · simp only [hf]
      exact (refuse_finish _ _ _).symm

/-- What an event answers to a call: its return code, or why there is none. A call that could not be
made, because no session was opened for it, is answered by that failure. -/
def answer? (call : Text) : Event → Option (Except ExecError Int)
  | ⟨.connect _, .error e⟩ => some (.error e)
  | ⟨.returnCode asked, reply⟩ => if asked = call then some reply else none
  | _ => none

/-- The answer to the check of an upgrade. -/
def checked (ctx : Context) (id : Text) (events : List Event) : Option (Except ExecError Int) :=
  events.findSome? (answer? (ctx.resolveWord (checkCall id)))

theorem checked_append {id : Text} {answer : Except ExecError Int} {before : List Event}
    (h : checked ctx id before = some answer) (after : List Event) :
    checked ctx id (before ++ after) = some answer := by
  rw [checked] at h
  rw [checked, List.findSome?_append, h]
  rfl

/-- The check opens a session and makes one call in it. -/
theorem plays_check_session {id : Text} {database : Option Text} {events : List Event}
    {status : Except ExecError Status} (h : (check ctx id database).Plays events status) :
    (∃ e, events = [⟨.connect database, .error e⟩] ∧ status = .error e) ∨
      ∃ answer rest, events = ⟨.connect database, .ok ()⟩ ::
          ⟨.returnCode (ctx.resolveWord (checkCall id)), answer⟩ :: rest ∧
        status = Status.ofReturnCode <$> answer := by
  rcases Exec.plays_withSession h with ⟨e, rfl, rfl⟩ | ⟨during, reply, rest, rfl, hd, -⟩
  · exact .inl ⟨e, rfl, rfl⟩
  · rw [bind_pure_comp] at hd
    obtain ⟨answer, hr, rfl⟩ := Exec.plays_map.1 hd
    obtain rfl := (Run.plays_act (.returnCode _)).1 hr
    exact .inr ⟨answer, ⟨.disconnect, reply⟩ :: rest, rfl, rfl⟩

/-- The check sends nothing and gives the status for the answer it gets. -/
theorem plays_check {id : Text} {database : Option Text} {events : List Event}
    {result : Except ExecError Status} (h : (check ctx id database).Plays events result) :
    ∃ answer, checked ctx id events = some answer ∧ result = Status.ofReturnCode <$> answer := by
  rcases plays_check_session h with ⟨e, rfl, rfl⟩ | ⟨answer, rest, rfl, rfl⟩
  · exact ⟨.error e, rfl, rfl⟩
  · refine ⟨answer, ?_, rfl⟩
    have hcall : answer? (ctx.resolveWord (checkCall id))
        ⟨.returnCode (ctx.resolveWord (checkCall id)), answer⟩ = some answer := if_pos rfl
    rw [checked, List.findSome?_cons, List.findSome?_cons, hcall]
    rfl

theorem only_check (id : Text) (database : Option Text) :
    (check ctx id database).Only fun a => ∀ sql, a ≠ .batch sql := by
  refine Exec.only_withSession (by simp) (by simp) (by simp) ?_
  refine (Exec.only_ofRun (Run.only_act ?_)).bind fun _ => Exec.only_pure _
  simp

theorem ofReturnCode_eq_pending (code : Int) :
    Status.ofReturnCode code = .pending ↔ code ≠ 1 ∧ code ≠ 2 := by
  unfold Status.ofReturnCode
  split
  · rename_i h
    simp [h]
  · split
    · rename_i h
      simp [h]
    · rename_i h h'
      simp [h, h']

/-- The check let the upgrade through. -/
def Passed (ctx : Context) (id : Text) (events : List Event) : Prop :=
  ∃ code, checked ctx id events = some (.ok code) ∧ code ≠ 1 ∧ code ≠ 2

theorem passed_of_pending {id : Text} {database : Option Text} {events : List Event}
    (h : (check ctx id database).Plays events (.ok .pending)) : Passed ctx id events := by
  obtain ⟨answer, hc, hs⟩ := plays_check h
  cases answer with
  | error e => cases hs
  | ok code => exact ⟨code, hc, (ofReturnCode_eq_pending code).1 (Except.ok.inj hs).symm⟩

/-- A run that does not get to the file of the upgrade sends nothing; a run that does has passed the
check. -/
theorem plays_run (hp : vars.preview = false) {events : List Event}
    {result : Except ExecError Outcome} (h : (run ctx vars).Plays events result) :
    (result = .ok .failure ∧ Quiet events ∧ Reported events) ∨
      ∃ id before after status, number? vars = some id ∧ events = before ++ after ∧
        (check ctx id vars.database).Plays before status ∧
        ((status = .error .cancelled ∧ after = [] ∧ result = .error .cancelled) ∨
          (status ≠ .error .cancelled ∧ status ≠ .ok .pending ∧ result = .ok .failure ∧
            Quiet after ∧ Reported after) ∨
          status = .ok .pending) := by
  unfold run at h
  cases hid : number? vars with
  | none =>
    rw [number?] at hid
    rw [hid] at h
    exact .inl (Exec.plays_failWith h)
  | some id =>
    rw [number?] at hid
    rw [hid] at h
    by_cases hf : ctx.files.isFile (ctx.locate vars.source) = true
    · simp only [hf, hp, if_true] at h
      obtain ⟨status, before, after, rfl, hc, hrest⟩ := Exec.plays_lift_bind h
      refine .inr ⟨id, before, after, status, rfl, rfl, hc, ?_⟩
      match status, hrest with
      | .error e, hrest =>
        rcases Exec.plays_foldError hrest with ⟨rfl, rfl, rfl⟩ | ⟨hne, rfl, hq, hr⟩
        · exact .inl ⟨rfl, rfl, rfl⟩
        · exact .inr (.inl ⟨fun heq => hne (Except.error.inj heq), by simp, rfl, hq, hr⟩)
      | .ok .unknown, hrest =>
        obtain ⟨rfl, hq, hr⟩ := Exec.plays_failWith hrest
        exact .inr (.inl ⟨by simp, by simp, rfl, hq, hr⟩)
      | .ok .applied, hrest =>
        obtain ⟨rfl, hq, hr⟩ := Exec.plays_failWith hrest
        exact .inr (.inl ⟨by simp, by simp, rfl, hq, hr⟩)
      | .ok .pending, _ => exact .inr (.inr rfl)
    · simp only [hf] at h
      exact .inl (Exec.plays_failWith h)

/-- The attempt at the upgrade a command names: its check let it through, and its parts are all those
of the file. -/
def Attempt.IsOf (ctx : Context) (vars : RunVariables) (events : List Event) (a : Attempt) : Prop :=
  number? vars = some a.id ∧ Passed ctx a.id events ∧
    ∃ content, ctx.files.readLossy (ctx.locate vars.source) = .ok content ∧
      a.parts.map Prod.fst =
        (plan ctx vars.database [] (Text.lines content)).filterMap Step.part?

theorem plays_refuse {message : Text} {events : List Event}
    {result : Except ExecError (Option Attempt)} (h : (refuse message).Plays events result) :
    result = .ok none := by
  rcases Exec.plays_bind.1 h with ⟨_, _, _, -, -, hend⟩ | ⟨_, hf, rfl⟩
  · exact hend.2.symm
  · obtain ⟨hcon, -⟩ := Exec.plays_failWith hf
    cases hcon

theorem plays_attemptParts {id path : Text} {events : List Event} {a : Attempt}
    (h : (attemptParts ctx vars id path).Plays events (.ok (some a))) :
    a.id = id ∧ ∃ content, ctx.files.readLossy path = .ok content ∧
      a.parts.map Prod.fst =
        (plan ctx vars.database [] (Text.lines content)).filterMap Step.part? := by
  unfold attemptParts at h
  cases hc : ctx.files.readLossy path with
  | ok content =>
    rw [hc] at h
    rcases Exec.plays_bind.1 h with ⟨done, _, _, -, hsteps, hend⟩ | ⟨_, -, hcon⟩
    · obtain rfl := Option.some.inj (Except.ok.inj hend.2)
      exact ⟨rfl, content, rfl, plays_runSteps hsteps⟩
    · cases hcon
  | error cause =>
    rw [hc] at h
    cases plays_refuse h

theorem plays_attemptFile {id path : Text} {events : List Event} {a : Attempt}
    (h : (attemptFile ctx vars id path).Plays events (.ok (some a))) :
    ∃ after, (attemptParts ctx vars id path).Plays after (.ok (some a)) := by
  unfold attemptFile at h
  split at h
  · rcases Exec.plays_bind.1 h with ⟨_, _, after, -, -, hrest⟩ | ⟨_, -, hcon⟩
    · exact ⟨after, hrest⟩
    · cases hcon
  · exact ⟨events, h⟩

theorem isOf_of_plays {events : List Event} {a : Attempt}
    (h : (attempt ctx vars).Plays events (.ok (some a))) : a.IsOf ctx vars events := by
  unfold attempt at h
  split at h
  · cases plays_refuse h
  · rename_i id hid
    dsimp only at h
    split at h
    · obtain ⟨status, before, after, rfl, hc, hrest⟩ := Exec.plays_lift_bind h
      match status, hrest with
      | .error e, hrest =>
        rcases Exec.plays_bind.1 hrest with ⟨_, _, _, -, -, hend⟩ | ⟨_, -, hcon⟩
        · cases hend.2
        · cases hcon
      | .ok .unknown, hrest => cases plays_refuse hrest
      | .ok .applied, hrest => cases plays_refuse hrest
      | .ok .pending, hrest =>
        obtain ⟨_, hparts⟩ := plays_attemptFile hrest
        obtain ⟨rfl, hcontent⟩ := plays_attemptParts hparts
        obtain ⟨code, hcode, hne⟩ := passed_of_pending hc
        exact ⟨hid, ⟨code, checked_append hcode after, hne⟩, hcontent⟩
    · cases plays_refuse h

/-- The end of a run turns to the server exactly for a completion. -/
theorem plays_finish {tried : Option Attempt} {events : List Event}
    {result : Except ExecError Outcome} (h : (finish ctx vars tried).Plays events result) :
    (∃ a r, tried = some a ∧ allOk a.parts = true ∧
        (record ctx a.id vars.database).Plays events r ∧ result = (fun _ => .success) <$> r) ∨
      (Quiet events ∧ result = .ok .failure ∧ ∀ a, tried = some a → allOk a.parts = false) := by
  cases tried with
  | none =>
    obtain ⟨rfl, rfl⟩ := h
    exact .inr ⟨quiet_nil, rfl, by simp⟩
  | some a =>
    rw [finish] at h
    by_cases hok : allOk a.parts = true
    · rw [if_pos hok] at h
      rw [bind_pure_comp] at h
      obtain ⟨r, hr, rfl⟩ := Exec.plays_map.1 h
      exact .inl ⟨a, r, rfl, hok, hr, rfl⟩
    · rw [if_neg hok] at h
      obtain ⟨rfl, hq, -⟩ := Exec.plays_failWith h
      refine .inr ⟨hq, rfl, ?_⟩
      intro a' ha
      obtain rfl := Option.some.inj ha
      simpa using hok

/-- A tree with one upgrade file, and options that are not built. -/
def oneUpgrade : Context :=
  let env : Environment :=
    { name := "dev", host := "dbhost", port := none, user := "sa", password := "secret",
      platform := .sybase, company := "101", language := "1", root := "/sql", rawMode := false,
      named := true }
  { env
    options := { env, maxAge := 0 }
    files := { entries := [
      (["tmp"], .directory),
      (["sct_1.sql"], .file (Utf8.encode "create table x (a int)\ngo\n") 0)] } }

def oneUpgradeRun : Exec Outcome := run oneUpgrade { source := "/sct_1.sql" }

/-- A run that succeeds has tried to record its upgrade. The server took the completion exactly when
no error was reported after the attempt: the outcome of the run does not tell. -/
theorem accepted_iff_not_reported (hp : vars.preview = false) {events : List Event}
    {outcome : Outcome} (h : (run ctx vars).Plays events (.ok outcome))
    (hs : outcome.isSuccess = true) :
    ∃ id head tail reply rest, number? vars = some id ∧ events = head ++ tail ∧
      (∃ tried, (attempt ctx vars).Plays head tried) ∧
      tail = ⟨.connect vars.database, reply⟩ :: rest ∧
      (sent tail).map Prod.fst <+: Batch.sendable (Batch.split (completionScript ctx id)) ∧
      (Accepted (completionScript ctx id) tail ↔ ¬ Reported tail) := by
  rw [run_eq hp] at h
  rcases Exec.plays_bind.1 h with ⟨tried, head, tail, rfl, hattempt, hfinish⟩ | ⟨e, -, hcon⟩
  · rcases plays_finish hfinish with ⟨a, r, rfl, -, hr, hresult⟩ | ⟨-, hresult, -⟩
    · obtain ⟨reply, rest, htail, hsent, hend⟩ := plays_record hr
      rcases hend with rfl | ⟨-, hiff⟩
      · cases hresult
      · exact ⟨a.id, head, tail, reply, rest, (isOf_of_plays hattempt).1, rfl, ⟨_, hattempt⟩, htail,
          hsent, hiff⟩
    · rw [Except.ok.inj hresult] at hs
      cases hs
  · cases hcon

theorem accepted_oneUpgrade :
    ∃ id head tail reply rest, number? { source := "/sct_1.sql" } = some id ∧
      oneUpgradeRun.run.trace MemoryServer.host {} = head ++ tail ∧
      (∃ tried, (attempt oneUpgrade { source := "/sct_1.sql" }).Plays head tried) ∧
      tail = ⟨.connect none, reply⟩ :: rest ∧
      (sent tail).map Prod.fst <+:
        Batch.sendable (Batch.split (completionScript oneUpgrade id)) ∧
      (Accepted (completionScript oneUpgrade id) tail ↔ ¬ Reported tail) := by
  have hplays := Run.plays_exec MemoryServer.host oneUpgradeRun.run {}
  have hresult : (oneUpgradeRun.run.exec MemoryServer.host {}).1 = .ok .success := rfl
  rw [hresult] at hplays
  exact accepted_iff_not_reported rfl hplays rfl

/-- The server rejects the completion, the upgrade is not recorded, and the run succeeds. -/
theorem success_without_record :
    let played := oneUpgradeRun.run.exec MemoryServer.host { failing := [("end_dt", [])] }
    played.1 = .ok .success ∧ played.2.applied = [] :=
  ⟨rfl, rfl⟩

end Upgrade

end SqlBuild
