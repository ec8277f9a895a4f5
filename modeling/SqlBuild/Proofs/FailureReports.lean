import SqlBuild.Proofs.AuditEntry
import SqlBuild.Proofs.ScriptPreview

/-!
# No failure is silent

A unit that fails has told so, and the message names the cause: a script quotes the server
(`Script.counted_runText`), everything else has a complaint of its own. The parts of a build have
disjoint shares of what happens, and their outcomes are added up (`Build.exists_ran`), so a build
reports at least as many errors as it counts failures.
-/

namespace SqlBuild

/-- The message in a text that tells of a failure. -/
def Run.errorMessage? (text : Text) : Option Text :=
  (Text.after? "Error: " text).bind (Text.before? "\n")

theorem Run.errorMessage?_eq_some {text message : Text} :
    errorMessage? text = some message ↔ text = errorLine message := by
  have hline : errorLine message = ("Error: " : Text) ++ (message ++ "\n") := List.append_assoc ..
  rw [hline, errorMessage?, Option.bind_eq_some_iff]
  constructor
  · rintro ⟨rest, hafter, hbefore⟩
    rw [Text.after?_eq_some.1 hafter, Text.before?_eq_some.1 hbefore]
  · intro h
    exact ⟨message ++ "\n", Text.after?_eq_some.2 h, Text.before?_eq_some.2 rfl⟩

/-- The messages of the errors reported to the output, whether or not it takes them. -/
def complaints (events : List Event) : List Text :=
  (printed events).filterMap Run.errorMessage?

theorem complaints_append (before after : List Event) :
    complaints (before ++ after) = complaints before ++ complaints after := by
  rw [complaints, printed_append, List.filterMap_append, complaints, complaints]

theorem complaints_sublist {events events' : List Event} (h : events.Sublist events') :
    (complaints events).Sublist (complaints events') :=
  (h.filterMap _).filterMap _

theorem complaints_subset {events events' : List Event} (h : events ⊆ events') :
    complaints events ⊆ complaints events' := by
  intro message hm
  obtain ⟨text, htext, hmessage⟩ := List.mem_filterMap.1 hm
  obtain ⟨e, he, hprinted⟩ := List.mem_filterMap.1 htext
  exact List.mem_filterMap.2 ⟨text, List.mem_filterMap.2 ⟨e, h he, hprinted⟩, hmessage⟩

/-- What did not go well has been told, with one of its causes as the message. -/
def Told (cause : Text → Prop) (events : List Event) (ok : Bool) : Prop :=
  ok = false → ∃ message ∈ complaints events, cause message

namespace Told

variable {cause cause' : Text → Prop} {events events' : List Event} {ok ok' : Bool}

theorem fine : Told cause events true := fun h => nomatch h

theorem complained {message : Text} (hm : message ∈ complaints events) (hcause : cause message) :
    Told cause events ok :=
  fun _ => ⟨message, hm, hcause⟩

theorem mono (h : Told cause events ok) (hevents : events ⊆ events')
    (hcause : ∀ message, cause message → cause' message) : Told cause' events' ok := by
  intro hok
  obtain ⟨message, hm, hc⟩ := h hok
  exact ⟨message, complaints_subset hevents hm, hcause message hc⟩

theorem and (h : Told cause events ok) (h' : Told cause events ok') :
    Told cause events (ok && ok') := by
  intro hboth
  rcases Bool.and_eq_false_iff.1 hboth with hok | hok
  · exact h hok
  · exact h' hok

end Told

/-- One unit, and if it failed that has been told. -/
def Counted (cause : Text → Prop) (events : List Event) (outcome : Outcome) : Prop :=
  ∃ ok, outcome = .unit ok ∧ Told cause events ok

namespace Counted

variable {cause : Text → Prop} {events : List Event} {outcome : Outcome}

theorem success : Counted cause events .success := ⟨true, rfl, .fine⟩

theorem after (h : Counted cause events outcome) (before : List Event) :
    Counted cause (before ++ events) outcome := by
  obtain ⟨ok, hok, htold⟩ := h
  exact ⟨ok, hok, htold.mono (List.subset_append_right _ _) fun _ hc => hc⟩

end Counted

theorem Run.mem_complaints {message : Text} {events : List Event} {u : Unit}
    (h : (reportError message).Plays events u) : message ∈ complaints events := by
  obtain ⟨reply, rest, rfl, -⟩ := plays_write h
  exact List.mem_filterMap.2 ⟨_, List.mem_cons_self, errorMessage?_eq_some.2 rfl⟩

namespace Exec

variable {α β : Type} {events : List Event}

/-- A run that comes to its end comes to the end of both of its parts. -/
theorem plays_bind_ok {x : Exec α} {f : α → Exec β} {b : β}
    (h : (x >>= f).Plays events (.ok b)) :
    ∃ a before after, events = before ++ after ∧ x.Plays before (.ok a) ∧
      (f a).Plays after (.ok b) := by
  rcases plays_bind.1 h with hboth | ⟨_, -, hcon⟩
  · exact hboth
  · cases hcon

theorem plays_bind_pure_ok {x : Exec α} {f : α → β} {b : β}
    (h : (x >>= fun a => pure (f a)).Plays events (.ok b)) :
    ∃ a, x.Plays events (.ok a) ∧ f a = b := by
  obtain ⟨a, before, after, rfl, hx, hend⟩ := plays_bind_ok h
  obtain ⟨rfl, heq⟩ := hend
  rw [List.append_nil]
  exact ⟨a, hx, Except.ok.inj heq⟩

theorem complaint_of_failWith {message : Text} {outcome : Outcome}
    (h : (failWith message).Plays events (.ok outcome)) :
    outcome = .unit false ∧ message ∈ complaints events := by
  obtain ⟨_, hreport, rfl⟩ := plays_bind_pure_ok h
  obtain ⟨_, hwrite, -⟩ := plays_lift.1 hreport
  exact ⟨rfl, Run.mem_complaints hwrite⟩

theorem complaint_of_foldError {e : ExecError} {outcome : Outcome}
    (h : (foldError e).Plays events (.ok outcome)) :
    outcome = .unit false ∧ e.message ∈ complaints events := by
  cases e with
  | cancelled => cases h.2
  | _ => exact complaint_of_failWith h

theorem counted_failWith {cause : Text → Prop} {message : Text} {outcome : Outcome}
    (h : (failWith message).Plays events (.ok outcome)) (hcause : cause message) :
    Counted cause events outcome := by
  obtain ⟨rfl, hm⟩ := complaint_of_failWith h
  exact ⟨false, rfl, .complained hm hcause⟩

end Exec

namespace Script

variable {ctx : Context} {vars : RunVariables} {events events' : List Event}

/-- Why a script fails: a batch was rejected, or there was no session for it. -/
inductive Cause (events : List Event) : Text → Prop
  | rejected {sql : Text} {e : BatchError} (batch : ⟨.batch sql, .error e⟩ ∈ events) :
      Cause events e.fullText
  | refused {database : Option Text} {e : ExecError}
      (connect : ⟨.connect database, .error e⟩ ∈ events) : Cause events e.message

theorem Cause.mono (h : events ⊆ events') {message : Text} (hcause : Cause events message) :
    Cause events' message := by
  cases hcause with
  | rejected batch => exact .rejected (h batch)
  | refused connect => exact .refused (h connect)

theorem Cause.told_mono {ok : Bool} (h : Told (Cause events) events ok) (hsub : events ⊆ events') :
    Told (Cause events') events' ok :=
  h.mono hsub fun _ => Cause.mono hsub

theorem complaint_of_showBatch {echo audited : Bool} {index : Nat} {batch : Text} {e : BatchError}
    {u : Unit} (h : (showBatch echo audited index batch (.error e)).Plays events u) :
    e.fullText ∈ complaints events := by
  have hreport : ∀ {f : Unit → Run Unit} {events : List Event},
      (Run.reportError e.fullText >>= f).Plays events u → e.fullText ∈ complaints events := by
    intro f events h
    obtain ⟨_, before, after, rfl, hwrite, -⟩ := Run.plays_bind.1 h
    exact complaints_subset (List.subset_append_left _ _) (Run.mem_complaints hwrite)
  cases echo with
  | false => exact hreport h
  | true =>
    obtain ⟨_, before, after, rfl, -, hrest⟩ := Run.plays_bind.1 h
    exact complaints_subset (List.subset_append_right _ _) (hreport hrest)

theorem told_runFrom {echo audited : Bool} : ∀ {batches : List Text} {index : Nat}
    {events : List Event} {results : List BatchResult},
    (Batch.runFrom (showBatch echo audited) index batches).Plays events (.ok results) →
      Told (Cause events) events (results.all BatchResult.isOk)
  | [], _, _, _, h => by
    obtain ⟨rfl, heq⟩ := h
    obtain rfl := Except.ok.inj heq
    exact .fine
  | batch :: rest, index, events, results, h => by
    rw [Batch.runFrom] at h
    split at h
    · obtain ⟨rfl, heq⟩ := h
      obtain rfl := Except.ok.inj heq
      exact .fine
    · obtain ⟨_, polled, after, rfl, -, hsend⟩ := Exec.plays_bind_ok h
      obtain ⟨reply, asked, after, rfl, hbatch, hshow⟩ := Exec.plays_lift_bind hsend
      obtain rfl := (Run.plays_act (.batch batch)).1 hbatch
      obtain ⟨_, shown, after, rfl, hshown, hrest⟩ := Exec.plays_lift_bind hshow
      obtain ⟨others, hlater, rfl⟩ := Exec.plays_bind_pure_ok hrest
      rw [List.all_cons]
      refine Told.and ?_ (Cause.told_mono (told_runFrom hlater) fun _ he => by simp [he])
      cases reply with
      | ok text => exact .fine
      | error e =>
        refine .complained (complaints_subset (fun _ he => ?_) (complaint_of_showBatch hshown))
          (.rejected (List.mem_append_right _ List.mem_cons_self))
        simp [he]

/-- Only a connection that is refused and a cancelled run end the execution of a script early. -/
theorem told_execute {sql : Text} {database : Option Text} {echo audited : Bool}
    {result : Except ExecError Bool} (h : (execute sql database echo audited).Plays events result) :
    (∃ ok, result = .ok ok ∧ Told (Cause events) events ok) ∨ result = .error .cancelled ∨
      ∃ e, result = .error e ∧ ⟨.connect database, .error e⟩ ∈ events := by
  have hquiet : ∀ index batch result events u,
      (showBatch echo audited index batch result).Plays events u → Quiet events :=
    fun index batch result events u hp => only_showBatch echo audited index batch result _ _ hp
  rcases Exec.plays_withSession h with ⟨e, rfl, rfl⟩ | ⟨during, reply, rest, rfl, hd, -⟩
  · exact .inr (.inr ⟨e, rfl, List.mem_singleton_self _⟩)
  rcases Exec.plays_bind.1 hd with ⟨results, before, after, rfl, hr, hend⟩ | ⟨e, hr, rfl⟩
  · obtain ⟨rfl, rfl⟩ := hend
    exact .inl ⟨_, rfl, Cause.told_mono (told_runFrom hr) fun _ he => by simp [he]⟩
  · obtain ⟨_, hcon, -⟩ | ⟨hcancelled, -⟩ := Batch.plays_runFrom hquiet hr
    · cases hcon
    · rw [Except.error.inj hcancelled]
      exact .inr (.inl rfl)

/-- An execution that ends early is folded into a failure, which is told as well. -/
theorem counted_execute {sql : Text} {database : Option Text} {echo audited : Bool}
    {outcome : Outcome}
    (h : (Exec.orFold do return .unit (← execute sql database echo audited)).Plays events
      (.ok outcome)) : Counted (Cause events) events outcome := by
  obtain ⟨r, executed, folded, rfl, hr, hrest⟩ := Exec.plays_lift_bind h
  obtain ⟨r', hexecute, rfl⟩ := Exec.plays_map.1 hr
  obtain ⟨ok, rfl, htold⟩ | rfl | ⟨e, rfl, hconnect⟩ := told_execute hexecute
  · obtain ⟨rfl, heq⟩ := hrest
    rw [List.append_nil]
    exact ⟨ok, (Except.ok.inj heq).symm, htold⟩
  · cases hrest.2
  · obtain ⟨rfl, hm⟩ := Exec.complaint_of_foldError hrest
    exact ⟨false, rfl, .complained (complaints_subset (List.subset_append_right _ _) hm)
      (.refused (List.mem_append_left _ hconnect))⟩

theorem told_iterate {content : Text} {audit : Option Text} {sequence : Option Int} {ok : Bool}
    (h : (iterate ctx vars content audit sequence).Plays events (.ok ok)) :
    Told (Cause events) events ok := by
  obtain ⟨_, polled, after, rfl, -, hwork⟩ := Exec.plays_bind_ok h
  dsimp only at hwork
  split at hwork
  · obtain ⟨_, -, rfl⟩ := Exec.plays_bind_pure_ok hwork
    exact .fine
  · obtain ⟨outcome, hfold, rfl⟩ := Exec.plays_bind_pure_ok hwork
    obtain ⟨ok, rfl, htold⟩ := counted_execute hfold
    rw [Outcome.isSuccess_unit]
    exact Cause.told_mono htold (List.subset_append_right _ _)

/-- What has been told of the values before is still told. -/
theorem told_forValues {work : Int → Exec Bool}
    (hwork : ∀ n events ok, (work n).Plays events (.ok ok) → Told (Cause events) events ok) :
    ∀ {count : Nat} {value : Int} {earlier events : List Event} {ok ok' : Bool},
      Told (Cause earlier) earlier ok → (forValues work count value ok).Plays events (.ok ok') →
        Told (Cause (earlier ++ events)) (earlier ++ events) ok'
  | 0, _, earlier, _, ok, ok', hearlier, h => by
    obtain ⟨rfl, heq⟩ := h
    obtain rfl := Except.ok.inj heq
    rwa [List.append_nil]
  | count + 1, value, earlier, _, ok, ok', hearlier, h => by
    obtain ⟨result, during, after, rfl, hone, hrest⟩ := Exec.plays_bind_ok h
    have hboth : Told (Cause (earlier ++ during)) (earlier ++ during) (ok && result) :=
      (Cause.told_mono hearlier (List.subset_append_left _ _)).and
        (Cause.told_mono (hwork value during result hone) (List.subset_append_right _ _))
    rw [← List.append_assoc]
    exact told_forValues hwork hboth hrest

theorem counted_runText {content : Text} {audit : Option Text} {outcome : Outcome}
    (h : (runText ctx vars audit content).Plays events (.ok outcome)) :
    Counted (Cause events) events outcome := by
  unfold runText at h
  split at h
  · obtain ⟨ok, hone, rfl⟩ := Exec.plays_bind_pure_ok h
    exact ⟨ok, rfl, told_iterate hone⟩
  · obtain ⟨ok, hvalues, rfl⟩ := Exec.plays_bind_pure_ok h
    have hnone : Told (Cause []) [] true := .fine
    exact ⟨ok, rfl, told_forValues (fun _ _ _ => told_iterate) hnone hvalues⟩

end Script

namespace Upgrade

variable {ctx : Context} {vars : RunVariables} {all events : List Event} {outcome : Outcome}

/-- Why an upgrade fails; `all` is what happens in its run. -/
inductive Cause (ctx : Context) (vars : RunVariables) (all : List Event) : Text → Prop
  | unnumbered (hid : number? vars = none) : Cause ctx vars all (unnumbered vars.source)
  | notFound (h : ctx.files.isFile (ctx.locate vars.source) = false) :
      Cause ctx vars all ("Upgrade file not found: '" ++ ctx.locate vars.source ++ "'")
  | unreadable (cause : IoError) (h : ctx.files.readLossy (ctx.locate vars.source) = .error cause) :
      Cause ctx vars all (readFailure (ctx.locate vars.source) cause)
  /-- The server could not be asked for the status. -/
  | unchecked (id : Text) (e : ExecError) (hid : number? vars = some id)
      (h : checked ctx id all = some (.error e)) : Cause ctx vars all e.message
  | missing (id : Text) (hid : number? vars = some id) (h : checked ctx id all = some (.ok 1)) :
      Cause ctx vars all ("Upgrade control record for upgrade " ++ id ++ " is missing.")
  | applied (id : Text) (hid : number? vars = some id) (h : checked ctx id all = some (.ok 2)) :
      Cause ctx vars all ("Upgrade " ++ id ++ " has already been applied.")
  | failed (id : Text) (hid : number? vars = some id) :
      Cause ctx vars all ("Upgrade " ++ id ++ " failed; it is not marked as applied.")

theorem ofReturnCode_eq_unknown {code : Int} (h : Status.ofReturnCode code = .unknown) :
    code = 1 := by
  unfold Status.ofReturnCode at h
  split at h
  · assumption
  · split at h <;> cases h

theorem ofReturnCode_eq_applied {code : Int} (h : Status.ofReturnCode code = .applied) :
    code = 2 := by
  unfold Status.ofReturnCode at h
  split at h
  · cases h
  · split at h
    · assumption
    · cases h

/-- What the check is answered tells its status. -/
theorem plays_check_ok {id : Text} {database : Option Text} {status : Status}
    (h : (check ctx id database).Plays events (.ok status)) :
    ∃ code, checked ctx id events = some (.ok code) ∧ Status.ofReturnCode code = status := by
  obtain ⟨answer, hanswer, hstatus⟩ := plays_check h
  cases answer with
  | ok code => exact ⟨code, hanswer, (Except.ok.inj hstatus).symm⟩
  | error e => cases hstatus

theorem plays_check_error {id : Text} {database : Option Text} {e : ExecError}
    (h : (check ctx id database).Plays events (.error e)) :
    checked ctx id events = some (.error e) := by
  obtain ⟨answer, hanswer, hstatus⟩ := plays_check h
  cases answer with
  | ok code => cases hstatus
  | error e' =>
    rw [Except.error.inj hstatus]
    exact hanswer

theorem counted_applyText {id content : Text} (hid : number? vars = some id)
    (h : (applyText ctx vars id content).Plays events (.ok outcome)) :
    Counted (Cause ctx vars all) events outcome := by
  obtain ⟨w, walked, after, rfl, -, hend⟩ := Exec.plays_bind_ok h
  split at hend
  · have hsuccess : outcome = .success := by
      split at hend
      · obtain ⟨_, _, _, -, -, hsuccess⟩ := Exec.plays_bind_ok hend
        exact (Except.ok.inj hsuccess.2).symm
      · exact (Except.ok.inj hend.2).symm
    rw [hsuccess]
    exact .success
  · exact (Exec.counted_failWith hend (.failed id hid)).after walked

theorem counted_applyRead {id : Text} (hid : number? vars = some id)
    (h : (applyRead ctx vars id (ctx.locate vars.source)).Plays events (.ok outcome)) :
    Counted (Cause ctx vars all) events outcome := by
  unfold applyRead at h
  split at h
  · exact counted_applyText hid h
  · rename_i cause hread
    exact Exec.counted_failWith h (.unreadable cause hread)

/-- The audit entry has no influence on the outcome. -/
theorem counted_applyFile {id : Text} (hid : number? vars = some id)
    (h : (applyFile ctx vars id (ctx.locate vars.source)).Plays events (.ok outcome)) :
    Counted (Cause ctx vars all) events outcome := by
  rw [applyFile_entry] at h
  obtain ⟨_, entry, after, rfl, -, hread⟩ := Exec.plays_bind_ok h
  exact (counted_applyRead hid hread).after entry

theorem counted_applyChecked {id : Text} (hid : number? vars = some id)
    (h : (applyChecked ctx vars id (ctx.locate vars.source)).Plays events (.ok outcome)) :
    Counted (Cause ctx vars events) events outcome := by
  obtain ⟨status, before, after, rfl, hcheck, hrest⟩ := Exec.plays_lift_bind h
  refine Counted.after ?_ before
  match status, hcheck, hrest with
  | .error e, hcheck, hrest =>
    obtain ⟨rfl, hm⟩ := Exec.complaint_of_foldError hrest
    have hchecked := checked_append (plays_check_error hcheck) after
    exact ⟨false, rfl, .complained hm (.unchecked id e hid hchecked)⟩
  | .ok .unknown, hcheck, hrest =>
    obtain ⟨code, hcode, hstatus⟩ := plays_check_ok hcheck
    rw [ofReturnCode_eq_unknown hstatus] at hcode
    exact Exec.counted_failWith hrest (.missing id hid (checked_append hcode after))
  | .ok .applied, hcheck, hrest =>
    obtain ⟨code, hcode, hstatus⟩ := plays_check_ok hcheck
    rw [ofReturnCode_eq_applied hstatus] at hcode
    exact Exec.counted_failWith hrest (.applied id hid (checked_append hcode after))
  | .ok .pending, _, hrest => exact counted_applyFile hid hrest

theorem counted_run (h : (run ctx vars).Plays events (.ok outcome)) :
    Counted (Cause ctx vars events) events outcome := by
  unfold run at h
  split at h
  · rename_i hid
    exact Exec.counted_failWith h (.unnumbered hid)
  · rename_i id hid
    dsimp only at h
    split at h
    · split at h
      · exact counted_applyFile hid h
      · exact counted_applyChecked hid h
    · rename_i hfile
      exact Exec.counted_failWith h (.notFound (by simpa using hfile))

end Upgrade

namespace Compiler

variable {ctx : Context} {kind : CompilerKind} {events : List Event} {outcome : Outcome}

/-- Why a compiler fails: it has no plan, or following the plan has failed. -/
inductive Cause (ctx : Context) (kind : CompilerKind) : Text → Prop
  | unplanned (e : PlanError) (h : (kind.plan ctx).run.value = .error e) :
      Cause ctx kind (complaint kind e.message)
  | stopped (e : ExecError) : Cause ctx kind (complaint kind e.message)

theorem counted_follow {plan : CompilePlan}
    (h : (follow ctx kind plan).Plays events (.ok outcome)) :
    Counted (Cause ctx kind) events outcome := by
  obtain ⟨r, applied, after, rfl, -, hrest⟩ := Exec.plays_lift_bind h
  refine Counted.after ?_ applied
  cases r with
  | ok _ =>
    obtain ⟨_, _, _, rfl, -, hend⟩ := Exec.plays_lift_bind hrest
    rw [← Except.ok.inj hend.2]
    exact .success
  | error e =>
    cases e with
    | cancelled => cases hrest.2
    | _ => exact Exec.counted_failWith hrest (.stopped _)

/-- A compiler that has nothing to compile is no unit. -/
theorem counted_run (h : (run ctx kind).Plays events (.ok outcome)) :
    outcome = {} ∨ Counted (Cause ctx kind) events outcome := by
  unfold run at h
  split at h
  · exact .inl (Except.ok.inj h.2).symm
  · obtain ⟨_, warned, after, rfl, -, hrest⟩ := Exec.plays_lift_bind h
    refine .inr (Counted.after ?_ warned)
    split at hrest
    · exact counted_follow hrest
    · rename_i e hplan
      exact Exec.counted_failWith hrest (.unplanned e hplan)

end Compiler

namespace Outcome

/-- The sum of outcomes. -/
def total (outcomes : List Outcome) : Outcome := outcomes.foldr (· + ·) {}

@[simp] theorem total_nil : total [] = {} := rfl

@[simp] theorem total_cons (o : Outcome) (outcomes : List Outcome) :
    total (o :: outcomes) = o + total outcomes := rfl

theorem isSuccess_iff {o : Outcome} : o.isSuccess = true ↔ o.failed = 0 := beq_iff_eq

theorem isSuccess_total {outcomes : List Outcome} :
    (total outcomes).isSuccess = true ↔ ∀ o ∈ outcomes, o.isSuccess = true := by
  induction outcomes with
  | nil => simp [isSuccess]
  | cons o rest ih =>
    rw [List.forall_mem_cons, ← ih, total_cons]
    simp only [isSuccess_iff, failed_add]
    omega

end Outcome

namespace Build

variable {ctx : Context} {vars : RunVariables}

/-- What a part may have to say when it fails. -/
def Part.Cause (ctx : Context) (events : List Event) : Part → Text → Prop
  | script .. => Script.Cause events
  | upgrade vars => Upgrade.Cause ctx vars events
  | compiler kind => Compiler.Cause ctx kind
  | mention _ => fun _ => False
  | refused why => (· = why.message)

theorem Part.counted {part : Part} {events : List Event} {outcome : Outcome}
    (h : (part.run ctx).Plays events (.ok outcome)) :
    outcome = {} ∨ Counted (part.Cause ctx events) events outcome := by
  cases part with
  | script vars content => exact .inr (Script.counted_runText h)
  | upgrade vars => exact .inr (Upgrade.counted_run h)
  | compiler kind => exact Compiler.counted_run h
  | mention kind =>
    obtain ⟨_, _, _, -, -, hend⟩ := Exec.plays_lift_bind h
    exact .inl (Except.ok.inj hend.2).symm
  | refused why => exact .inr (Exec.counted_failWith h rfl)

/-- A part that has been run: its share of what happened, and its outcome. -/
structure Ran (ctx : Context) where
  part : Part
  events : List Event
  outcome : Outcome
  plays : (part.run ctx).Plays events (.ok outcome)

/-- At most one unit is counted for a part, and a failure has been told in its share. -/
structure Ran.Accounted (ran : Ran ctx) : Prop where
  one : ran.outcome.executed ≤ 1
  failed : ran.outcome.failed ≤ ran.outcome.executed
  told : Told (ran.part.Cause ctx ran.events) ran.events ran.outcome.isSuccess

theorem Ran.accounted (ran : Ran ctx) : ran.Accounted := by
  rcases Part.counted ran.plays with hnone | ⟨ok, hunit, htold⟩
  · exact ⟨by simp [hnone], by simp [hnone], by simpa [hnone] using .fine⟩
  · refine ⟨by simp [hunit, Outcome.unit], ?_, ?_⟩
    · rw [hunit]
      cases ok <;> simp [Outcome.unit]
    · rw [hunit, Outcome.isSuccess_unit]
      exact htold

/-- The parts share out what happens in a build, and none of their outcomes is lost or counted
twice. -/
theorem exists_ran : ∀ {steps : List Step} {counted : Outcome} {events : List Event}
    {outcome : Outcome}, (runSteps ctx steps counted).Plays events (.ok outcome) →
      ∃ ran : List (Ran ctx), ran.map Ran.part = steps.filterMap Step.part? ∧
        (ran.flatMap Ran.events).Sublist events ∧
        outcome = counted + Outcome.total (ran.map Ran.outcome)
  | [], counted, _, _, h => by
    obtain ⟨rfl, heq⟩ := h
    exact ⟨[], rfl, .slnil, (Except.ok.inj heq).symm⟩
  | .poll :: rest, counted, _, _, h => by
    obtain ⟨_, polled, after, rfl, -, hrest⟩ := Exec.plays_bind_ok h
    obtain ⟨ran, hparts, hshares, hsum⟩ := exists_ran hrest
    exact ⟨ran, hparts, hshares.trans (List.sublist_append_right _ _), hsum⟩
  | .part p :: rest, counted, _, _, h => by
    obtain ⟨one, share, after, rfl, hp, hrest⟩ := Exec.plays_bind_ok h
    obtain ⟨ran, hparts, hshares, hsum⟩ := exists_ran hrest
    refine ⟨⟨p, share, one, hp⟩ :: ran, congrArg (p :: ·) hparts, hshares.append_left share, ?_⟩
    rw [hsum, Outcome.add_assoc, List.map_cons, Outcome.total_cons]

theorem failed_le_executed : ∀ ran : List (Ran ctx),
    (Outcome.total (ran.map Ran.outcome)).failed ≤ (Outcome.total (ran.map Ran.outcome)).executed
  | [] => Nat.le_refl _
  | one :: rest => by
    have hone := one.accounted.failed
    have hrest := failed_le_executed rest
    simp only [List.map_cons, Outcome.total_cons, Outcome.failed_add, Outcome.executed_add]
    omega

theorem failed_le_complaints : ∀ ran : List (Ran ctx),
    (Outcome.total (ran.map Ran.outcome)).failed ≤ (complaints (ran.flatMap Ran.events)).length
  | [] => Nat.le_refl _
  | one :: rest => by
    have hone : one.outcome.failed ≤ (complaints one.events).length := by
      obtain ⟨hle, hfailed, htold⟩ := one.accounted
      cases hsuccess : one.outcome.isSuccess with
      | true =>
        rw [Outcome.isSuccess_iff.1 hsuccess]
        exact Nat.zero_le _
      | false =>
        obtain ⟨message, hm, -⟩ := htold hsuccess
        have hpos := List.length_pos_of_mem hm
        omega
    have hrest := failed_le_complaints rest
    simp only [List.map_cons, Outcome.total_cons, Outcome.failed_add, List.flatMap_cons,
      complaints_append, List.length_append]
    omega

/-- A build that comes to its end reports at least one error for each failure it counts. Its outcome
is the sum over its parts, each of them run once, and a failed part reports its own cause. -/
theorem no_silent_failure (ctx : Context) (vars : RunVariables) {events : List Event}
    {outcome : Outcome} (h : (run ctx vars).Plays events (.ok outcome)) :
    outcome.failed ≤ outcome.executed ∧ outcome.failed ≤ (complaints events).length ∧
      ∃ ran : List (Ran ctx), ran.map Ran.part = parts ctx vars ∧
        (ran.flatMap Ran.events).Sublist events ∧
        outcome = Outcome.total (ran.map Ran.outcome) ∧
        (outcome.isSuccess = true ↔ ∀ one ∈ ran, one.outcome.isSuccess = true) ∧
        ∀ one ∈ ran, one.Accounted := by
  rw [run_eq] at h
  obtain ⟨_, entry, _, rfl, -, hsteps⟩ := Exec.plays_bind_ok h
  obtain ⟨sum, during, last, rfl, hrun, hsummary⟩ := Exec.plays_bind_ok hsteps
  obtain ⟨_, shown, rest, rfl, -, hend⟩ := Exec.plays_lift_bind hsummary
  obtain rfl := Except.ok.inj hend.2
  obtain ⟨ran, hparts, hshares, hsum⟩ := exists_ran hrun
  rw [Outcome.none_add] at hsum
  have hinside : (ran.flatMap Ran.events).Sublist (entry ++ (during ++ (shown ++ rest))) :=
    (hshares.trans (List.sublist_append_left _ _)).trans (List.sublist_append_right _ _)
  have hcomplaints := (complaints_sublist hinside).length_le
  subst hsum
  refine ⟨failed_le_executed ran, Nat.le_trans (failed_le_complaints ran) hcomplaints, ran, hparts,
    hinside, rfl, ?_, fun one _ => one.accounted⟩
  rw [Outcome.isSuccess_total, List.forall_mem_map]

open Rehearsal

/-- A script with a rejected batch, an upgrade that has been applied, a compiler without its files,
the build script itself, and a script that goes well. -/
def fiveUnits : Context :=
  let env : Environment :=
    { name := "dev", host := "dbhost", port := none, user := "sa", password := "secret",
      platform := .mssql, company := "101", language := "1", root := "/sql", rawMode := false,
      named := true }
  { env
    options := { env, maxAge := 0 }
    files := { entries := [
      (["build"], .file (Utf8.encode
        "runsql /a.sql\ni_run_upgrade /sct_1.sql\ninstall_msg\nruncreate /build\nrunsql /b.sql\n")
          0),
      (["a.sql"], .file (Utf8.encode "insert\ngo\nupdate\ngo\n") 0),
      (["b.sql"], .file (Utf8.encode "select\n") 0),
      (["sct_1.sql"], .file (Utf8.encode "create\n") 0)] } }

theorem no_silent_failure_fiveUnits :
    let work := run fiveUnits { source := "/build" }
    let server : MemoryServer := { failing := [("insert", [])], applied := ["1"] }
    (work.run.exec MemoryServer.host server).1 = .ok ⟨5, 4⟩ ∧
      4 ≤ (complaints (work.run.trace MemoryServer.host server)).length := by
  intro work server
  have hplays := Run.plays_exec MemoryServer.host work.run server
  have hresult : (work.run.exec MemoryServer.host server).1 = .ok ⟨5, 4⟩ := by decide +kernel
  rw [hresult] at hplays
  exact ⟨hresult, (no_silent_failure fiveUnits { source := "/build" } hplays).2.1⟩

end Build

end SqlBuild
