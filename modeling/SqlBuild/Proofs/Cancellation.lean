import SqlBuild.Proofs.Orderly
import SqlBuild.Proofs.UpgradeGate

/-!
# A cancelled run is cut short

Two plays against one host that differ only in how the token reads are the same up to the first read
of a set token (`Run.trace_withToken`); this holds of every run. An orderly run ends there: all it
still does is to close its session, and its result is the cancellation, which it has for no other
reason (`Exec.Orderly.endsAtRead`). Together they say what cancelling changes (`cut_short`).
-/

namespace SqlBuild

/-- Nothing but closing a session, and warnings. -/
def Closing (events : List Event) : Prop :=
  ∀ e ∈ events, e.action = .disconnect ∨ ∃ text, e.action = .warn text

/-- The server never says by itself that the run has been cancelled. -/
def Unsaid (events : List Event) : Prop := ∀ e ∈ events, e.saysCancelled = false

theorem Closing.requests_eq {events : List Event} (h : Closing events) : requests events = [] := by
  refine List.filter_eq_nil_iff.2 fun action ha => ?_
  obtain ⟨e, he, rfl⟩ := List.mem_map.1 ha
  obtain heq | ⟨text, heq⟩ := h e he
  · simp [heq, Action.isRequest]
  · simp [heq, Action.isRequest]

theorem not_readSet {events : List Event} (h : ∀ e ∈ events, e.action ≠ .poll) :
    ¬ ReadSet events := fun hread => h _ hread rfl

theorem unsaid_append {before after : List Event} :
    Unsaid (before ++ after) ↔ Unsaid before ∧ Unsaid after := List.forall_mem_append

theorem Closing.not_readSet {events : List Event} (h : Closing events) : ¬ ReadSet events := by
  intro hread
  obtain heq | ⟨text, heq⟩ := h _ hread <;> cases heq

theorem OnlyWarns.closing {events : List Event} (h : OnlyWarns events) : Closing events :=
  fun e he => .inr (h e he)

namespace Host

variable {σ : Type}

/-- The host with a token beside it: `token n` tells how the token reads after `n` reads. -/
def withToken (host : Host σ) (token : Nat → Bool) : Host (σ × Nat) where
  answer
    | .poll, (s, n) => (token n, s, n + 1)
    | action, (s, n) => ((host.answer action s).1, (host.answer action s).2, n)

/-- The host does not say of its own that a run has been cancelled. -/
def IgnoresToken (host : Host σ) : Prop :=
  ∀ action s, Event.saysCancelled ⟨action, (host.answer action s).1⟩ = false

theorem answer_withToken (host : Host σ) (token : Nat → Bool) {action : Action}
    (h : action ≠ .poll) (s : σ) (n : Nat) : (host.withToken token).answer action (s, n) =
      ((host.answer action s).1, (host.answer action s).2, n) := by
  cases action with
  | poll => exact absurd rfl h
  | _ => rfl

theorem unsaid_trace {host : Host σ} (h : host.IgnoresToken) (token : Nat → Bool) {α : Type} :
    ∀ (r : Run α) (s : σ) (n : Nat), Unsaid (r.trace (host.withToken token) (s, n))
  | .done _, _, _ => by simp [Unsaid, Run.trace]
  | .ask action next, s, n => by
    intro e he
    rw [Run.trace] at he
    rcases List.mem_cons.1 he with rfl | he
    · by_cases hpoll : action = .poll
      · subst hpoll
        rfl
      · rw [answer_withToken host token hpoll]
        exact h action s
    · exact unsaid_trace h token _ _ _ e he

end Host

/-- One play never reads a set token and goes and ends like the other, or it goes like the other up
to its first read of a set token, which reads as unset in the other. -/
def SameUntilRead {β : Type} (cut never : List Event) (ended ended' : β) : Prop :=
  (¬ ReadSet cut ∧ cut = never ∧ ended = ended') ∨
    ∃ before after rest, ¬ ReadSet before ∧ cut = before ++ ⟨.poll, true⟩ :: after ∧
      never = before ++ ⟨.poll, false⟩ :: rest

theorem SameUntilRead.cons {β : Type} {cut never : List Event} {ended ended' : β}
    (h : SameUntilRead cut never ended ended') {e : Event} (hne : e ≠ ⟨.poll, true⟩) :
    SameUntilRead (e :: cut) (e :: never) ended ended' := by
  have hcons : ∀ {events : List Event}, ¬ ReadSet events → ¬ ReadSet (e :: events) :=
    fun hread h => (List.mem_cons.1 h).elim (fun heq => hne heq.symm) hread
  rcases h with ⟨hread, rfl, hend⟩ | ⟨before, after, rest, hread, rfl, rfl⟩
  · exact .inl ⟨hcons hread, rfl, hend⟩
  · exact .inr ⟨e :: before, after, rest, hcons hread, rfl, rfl⟩

/-- A run against a host whose token may be set goes like the one that is never cancelled, up to the
first read of a set token. -/
theorem Run.trace_withToken {σ α : Type} (host : Host σ) (token : Nat → Bool) (r : Run α) (s : σ)
    (n : Nat) : SameUntilRead (r.trace (host.withToken token) (s, n))
      (r.trace (host.withToken fun _ => false) (s, n)) (r.exec (host.withToken token) (s, n))
      (r.exec (host.withToken fun _ => false) (s, n)) := by
  induction r generalizing s n with
  | done _ => exact .inl ⟨by simp [ReadSet, trace], rfl, rfl⟩
  | ask action next ih =>
    rw [trace, trace, exec_ask, exec_ask]
    by_cases hpoll : action = .poll
    · subst hpoll
      have hread : (host.withToken token).answer .poll (s, n) = (token n, s, n + 1) := rfl
      rw [hread]
      cases token n with
      | true => exact .inr ⟨[], _, _, by simp [ReadSet], rfl, rfl⟩
      | false => exact (ih false s (n + 1)).cons fun h => by cases h
    · rw [Host.answer_withToken host token hpoll, Host.answer_withToken host _ hpoll]
      exact (ih _ _ n).cons fun h => hpoll (congrArg Event.action h)

/-- The token is first read as set after `before`, and all that follows is the closing of a session. -/
def CutAfter (before events : List Event) : Prop :=
  ¬ ReadSet before ∧ ∃ close, events = before ++ ⟨.poll, true⟩ :: close ∧ Closing close

namespace CutAfter

variable {start before events after : List Event}

theorem readSet (h : CutAfter before events) : ReadSet events := by
  obtain ⟨-, close, rfl, -⟩ := h
  exact readSet_append.2 (.inr List.mem_cons_self)

theorem prepend (h : CutAfter before events) (hstart : ¬ ReadSet start) :
    CutAfter (start ++ before) (start ++ events) := by
  obtain ⟨hbefore, close, rfl, hclose⟩ := h
  refine ⟨fun h => (readSet_append.1 h).elim hstart hbefore, close, ?_, hclose⟩
  rw [List.append_assoc]

theorem append (h : CutAfter before events) (hafter : Closing after) :
    CutAfter before (events ++ after) := by
  obtain ⟨hbefore, close, rfl, hclose⟩ := h
  refine ⟨hbefore, close ++ after, by rw [List.append_assoc, List.cons_append], ?_⟩
  exact fun e he => (List.mem_append.1 he).elim (hclose e) (hafter e)

end CutAfter

/-- A play has not read a set token and is not cancelled, or it ended where it did. -/
def CutAtRead {α : Type} (events : List Event) (result : Except ExecError α) : Prop :=
  (¬ ReadSet events ∧ result ≠ .error .cancelled) ∨
    (∃ before, CutAfter before events) ∧ result = .error .cancelled

namespace CutAtRead

variable {α β : Type} {before after : List Event}

theorem prepend {result : Except ExecError α} (h : CutAtRead after result)
    (hbefore : ¬ ReadSet before) : CutAtRead (before ++ after) result := by
  rcases h with ⟨hread, hne⟩ | ⟨⟨start, hcut⟩, rfl⟩
  · exact .inl ⟨fun h => (readSet_append.1 h).elim hbefore hread, hne⟩
  · exact .inr ⟨⟨before ++ start, hcut.prepend hbefore⟩, rfl⟩

theorem append {result : Except ExecError α} (h : CutAtRead before result)
    (hafter : Closing after) : CutAtRead (before ++ after) result := by
  rcases h with ⟨hread, hne⟩ | ⟨⟨start, hcut⟩, rfl⟩
  · exact .inl ⟨fun h => (readSet_append.1 h).elim hread hafter.not_readSet, hne⟩
  · exact .inr ⟨⟨start, hcut.append hafter⟩, rfl⟩

theorem not_readSet_of_ok {a : α} (h : CutAtRead before (.ok a : Except ExecError α)) :
    ¬ ReadSet before := by
  rcases h with ⟨hread, -⟩ | ⟨-, hcon⟩
  · exact hread
  · cases hcon

theorem error_congr {e : ExecError} (h : CutAtRead before (.error e : Except ExecError α)) :
    CutAtRead before (.error e : Except ExecError β) := by
  rcases h with ⟨hread, hne⟩ | ⟨hcut, heq⟩
  · exact .inl ⟨hread, fun heq => hne (Except.error.inj heq ▸ rfl)⟩
  · exact .inr ⟨hcut, Except.error.inj heq ▸ rfl⟩

end CutAtRead

namespace Exec

variable {α β : Type}

/-- However it goes, the run ends where it first reads a set token, and is not cancelled before. -/
def EndsAtRead (x : Exec α) : Prop :=
  ∀ events result, x.Plays events result → Unsaid events → CutAtRead events result

theorem endsAtRead_checkCancelled : checkCancelled.EndsAtRead := by
  intro events result hp _
  obtain ⟨rfl, rfl⟩ | ⟨rfl, rfl⟩ := plays_checkCancelled hp
  · refine .inl ⟨fun h => ?_, by simp⟩
    cases List.mem_singleton.1 h
  · exact .inr ⟨⟨[], by simp [ReadSet], [], rfl, by simp [Closing]⟩, rfl⟩

/-- What does not look at the token is cancelled only by the server. -/
theorem endsAtRead_request {r : Run (Except ExecError α)} (only : r.Only (·.inSession = true))
    (cancelled : ∀ events, r.Plays events (.error .cancelled) →
      ∃ e ∈ events, e.saysCancelled = true) : (ofRun r).EndsAtRead := by
  intro events result hp hunsaid
  refine .inl ⟨not_readSet fun e he heq => ?_, ?_⟩
  · have hin := only _ _ hp e he
    rw [heq] at hin
    cases hin
  · rintro rfl
    obtain ⟨e, he, hsays⟩ := cancelled events hp
    rw [hunsaid e he] at hsays
    cases hsays

theorem EndsAtRead.bind {x : Exec α} {f : α → Exec β} (hx : x.EndsAtRead)
    (hf : ∀ a, (f a).EndsAtRead) : (x >>= f).EndsAtRead := by
  intro events result hp hunsaid
  rcases plays_bind.1 hp with ⟨a, before, after, rfl, hb, ha⟩ | ⟨e, hb, rfl⟩
  · obtain ⟨hbefore, hafter⟩ := unsaid_append.1 hunsaid
    exact (hf a _ _ ha hafter).prepend (hx _ _ hb hbefore).not_readSet_of_ok
  · exact (hx _ _ hb hunsaid).error_congr

/-- After a read in a session comes its closing. -/
theorem EndsAtRead.withSession {work : Exec α} (h : work.EndsAtRead) (database : Option Text) :
    (withSession database work).EndsAtRead := by
  intro events result hp hunsaid
  rcases plays_withSession hp with ⟨e, rfl, rfl⟩ | ⟨during, reply, rest, rfl, hd, hw⟩
  · refine .inl ⟨not_readSet (by simp), ?_⟩
    rintro heq
    obtain rfl := Except.error.inj heq
    cases hunsaid _ List.mem_cons_self
  · have hduring : Unsaid during :=
      fun e he => hunsaid e (List.mem_cons_of_mem _ (List.mem_append_left _ he))
    have hclose : Closing (⟨.disconnect, reply⟩ :: rest) :=
      List.forall_mem_cons.2 ⟨.inl rfl, hw.closing⟩
    have hconnect : ¬ ReadSet [⟨.connect database, .ok ()⟩] := not_readSet (by simp)
    exact ((h _ _ hd hduring).append hclose).prepend hconnect

/-- A cancellation that comes out of the work is passed on at once. -/
theorem EndsAtRead.attempt {x : Exec α} {handle : Except ExecError α → Exec β} (hx : x.EndsAtRead)
    (passes : handle (.error .cancelled) = throw .cancelled)
    (handled : ∀ r, r ≠ .error .cancelled → (handle r).EndsAtRead) :
    (liftM x.run >>= handle).EndsAtRead := by
  intro events result hp hunsaid
  obtain ⟨r, before, after, rfl, hb, ha⟩ := plays_lift_bind hp
  obtain ⟨hbefore, hafter⟩ := unsaid_append.1 hunsaid
  have hcut : CutAtRead before r := hx _ _ hb hbefore
  by_cases hr : r = .error .cancelled
  · subst hr
    rw [passes] at ha
    obtain ⟨rfl, rfl⟩ := ha
    rw [List.append_nil]
    exact hcut.error_congr
  · refine (handled r hr _ _ ha hafter).prepend ?_
    rcases hcut with ⟨hread, -⟩ | ⟨-, hcon⟩
    · exact hread
    · exact absurd hcon hr

variable {may : Action → Prop}

theorem InSession.endsAtRead {work : Exec α} (h : InSession may work) : work.EndsAtRead := by
  induction h with
  | request only cancelled => exact endsAtRead_request (only.mono fun _ => And.left) cancelled
  | poll => exact endsAtRead_checkCancelled
  | bind _ _ ihFirst ihNext => exact ihFirst.bind ihNext

theorem Orderly.endsAtRead {x : Exec α} (h : Orderly may x) : x.EndsAtRead := by
  induction h with
  | tell only goesOn =>
    exact endsAtRead_request (only.mono fun _ => Action.inSession_of_toUser)
      fun events hp => absurd hp (goesOn events)
  | poll => exact endsAtRead_checkCancelled
  | bind _ _ ihFirst ihNext => exact ihFirst.bind ihNext
  | session database _ inside => exact inside.endsAtRead.withSession database
  | attempt _ passes _ ihWork ihHandled => exact ihWork.attempt passes ihHandled

end Exec

/-- Where the first read of a set token splits the events. -/
theorem split_unique {before before' after after' : List Event} (h : ¬ ReadSet before)
    (h' : ¬ ReadSet before')
    (heq : before ++ ⟨.poll, true⟩ :: after = before' ++ ⟨.poll, true⟩ :: after') :
    before = before' ∧ after = after' := by
  rcases List.append_eq_append_iff.1 heq with ⟨more, rfl, hmore⟩ | ⟨more, rfl, hmore⟩
  · cases more with
    | nil => exact ⟨(List.append_nil before).symm, (List.cons.inj hmore).2⟩
    | cons e more =>
      obtain ⟨rfl, -⟩ := List.cons.inj hmore
      exact absurd (readSet_append.2 (.inr List.mem_cons_self)) h'
  · cases more with
    | nil => exact ⟨List.append_nil before', (List.cons.inj hmore).2.symm⟩
    | cons e more =>
      obtain ⟨rfl, -⟩ := List.cons.inj hmore
      exact absurd (readSet_append.2 (.inr List.mem_cons_self)) h

/-- What cancelling does to a run, against a host that does not look at the token itself: the token
reads as unset `k` times and as set from then on, or it is never set. What is asked of the server is
a part of what is asked without a cancellation, from its start on. The run is cancelled exactly when
it has read the token as set. It then has gone like the other run up to this read, and has done
nothing more than to close its session; and when it has not read the token as set, it is the other
run. -/
theorem cut_short (ctx : Context) (runner : Runner) {σ : Type} (host : Host σ)
    (hignores : host.IgnoresToken) (s : σ) (k : Nat) :
    let work := (runner.run ctx).run
    let cut := host.withToken fun n => k ≤ n
    let never := host.withToken fun _ => false
    requests (work.trace cut (s, 0)) <+: requests (work.trace never (s, 0)) ∧
      ((work.exec cut (s, 0)).1 = .error .cancelled ↔ ReadSet (work.trace cut (s, 0))) ∧
      (ReadSet (work.trace cut (s, 0)) → ∃ before after rest,
        work.trace cut (s, 0) = before ++ ⟨.poll, true⟩ :: after ∧
        work.trace never (s, 0) = before ++ ⟨.poll, false⟩ :: rest ∧
        ¬ ReadSet before ∧ Closing after) ∧
      (¬ ReadSet (work.trace cut (s, 0)) →
        work.trace cut (s, 0) = work.trace never (s, 0) ∧
        work.exec cut (s, 0) = work.exec never (s, 0)) := by
  intro work cut never
  have hends : CutAtRead (work.trace cut (s, 0)) (work.exec cut (s, 0)).1 :=
    (runner.orderly ctx).endsAtRead _ _ (Run.plays_exec cut work (s, 0))
      (Host.unsaid_trace hignores _ work s 0)
  rcases Run.trace_withToken host (fun n => k ≤ n) work s 0 with
    ⟨hread, htrace, hexec⟩ | ⟨before, after, rest, hbefore, hcut, hnever⟩
  · have hne : (work.exec cut (s, 0)).1 ≠ .error .cancelled := by
      rcases hends with ⟨-, hne⟩ | ⟨⟨_, hcut⟩, -⟩
      · exact hne
      · exact absurd hcut.readSet hread
    refine ⟨?_, iff_of_false hne hread, fun h => absurd h hread, fun _ => ⟨htrace, hexec⟩⟩
    have hsame : requests (work.trace cut (s, 0)) = requests (work.trace never (s, 0)) :=
      congrArg requests htrace
    exact hsame ▸ List.prefix_refl _
  · have hread : ReadSet (work.trace cut (s, 0)) :=
      hcut ▸ readSet_append.2 (.inr List.mem_cons_self)
    rcases hends with ⟨hcon, -⟩ | ⟨⟨start, hstart, close, heq, hclose⟩, hresult⟩
    · exact absurd hread hcon
    · obtain ⟨rfl, rfl⟩ := split_unique hbefore hstart (hcut.symm.trans heq)
      refine ⟨?_, iff_of_true hresult hread, fun _ => ?_, fun h => absurd hread h⟩
      · have hafter : requests (⟨.poll, true⟩ :: after) = [] := hclose.requests_eq
        rw [show work.trace cut (s, 0) = _ from hcut, show work.trace never (s, 0) = _ from hnever,
          requests_append, requests_append, hafter, List.append_nil]
        exact List.prefix_append _ _
      · exact ⟨before, after, rest, hcut, hnever, hbefore, hclose⟩

open Rehearsal

theorem MemoryServer.ignoresToken : MemoryServer.host.IgnoresToken := by
  intro action server
  cases action with
  | connect database =>
    dsimp only [MemoryServer.host]
    split <;> rfl
  | returnCode call =>
    show Event.saysCancelled ⟨.returnCode call, server.code call⟩ = false
    unfold MemoryServer.code
    split <;> rfl
  | load table columns stream =>
    show Event.saysCancelled
      ⟨.load table columns stream, (server.load table columns stream.rows).1⟩ = false
    unfold MemoryServer.load
    split
    · rfl
    · dsimp only
      split <;> rfl
  | unload table =>
    show Event.saysCancelled ⟨.unload table, server.unload table⟩ = false
    unfold MemoryServer.unload
    split <;> rfl
  | _ => rfl

/-- The fourth read comes in the session of the upgrade's only batch, before it is sent. -/
theorem cut_short_oneUpgrade :
    let work := ((Runner.upgrade { source := "/sct_1.sql" }).run Upgrade.oneUpgrade).run
    let cut := MemoryServer.host.withToken fun n => (3 : Nat) ≤ n
    let never := MemoryServer.host.withToken fun _ => false
    MemoryServer.host.IgnoresToken ∧ ReadSet (work.trace cut ({}, 0)) ∧
      requests (work.trace cut ({}, 0)) =
        [.connect none, .returnCode "&i_upgrade_check& '1'", .connect none] ∧
      requests (work.trace cut ({}, 0)) <+: requests (work.trace never ({}, 0)) := by
  intro work cut never
  obtain ⟨hsame, hcancelled, -, -⟩ := cut_short Upgrade.oneUpgrade
    (.upgrade { source := "/sct_1.sql" }) MemoryServer.host MemoryServer.ignoresToken {} 3
  exact ⟨MemoryServer.ignoresToken, hcancelled.1 rfl, by decide +kernel, hsame⟩

end SqlBuild
