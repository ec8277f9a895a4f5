import SqlBuild.Proofs.Orderly
import SqlBuild.Proofs.UpgradeGate

/-!
# Sessions one at a time

Whether a session is open is a state that every event either changes or needs (`Event.step?`). An
orderly run takes this state from closed to closed, whatever the server answers and whenever the run
is cancelled (`Exec.Orderly.foldlM_step?`), and what that says of the numbers of sessions opened and
closed is `Disciplined`.
-/

namespace SqlBuild

namespace Event

/-- Whether a session is open after an event, if the event may happen at all. -/
def step? (isOpen : Bool) : Event → Option Bool
  | ⟨.connect _, .ok _⟩ => if isOpen then none else some true
  | ⟨.connect _, .error _⟩ => if isOpen then none else some false
  | ⟨.disconnect, _⟩ => if isOpen then some false else none
  | ⟨.poll, _⟩ | ⟨.print _, _⟩ | ⟨.warn _, _⟩ => some isOpen
  | _ => if isOpen then some true else none

def opens : Event → Bool
  | ⟨.connect _, .ok _⟩ => true
  | _ => false

def closes : Event → Bool
  | ⟨.disconnect, _⟩ => true
  | _ => false

/-- Whether an event is a matter of a session that has been opened before. -/
def needsSession : Event → Bool
  | ⟨.batch _, _⟩ | ⟨.returnCode _, _⟩ | ⟨.columns _, _⟩ | ⟨.load .., _⟩ | ⟨.unload _, _⟩ => true
  | ⟨.disconnect, _⟩ => true
  | _ => false

theorem step?_of_toUser {e : Event} (h : e.action.toUser = true) (isOpen : Bool) :
    e.step? isOpen = some isOpen := by
  obtain ⟨action, reply⟩ := e
  cases action with
  | print _ | warn _ => rfl
  | _ => cases h

theorem step?_of_inSession {e : Event} (h : e.action.inSession = true ∨ e.action = .poll) :
    e.step? true = some true := by
  obtain ⟨action, reply⟩ := e
  cases action with
  | connect _ | disconnect => rcases h with h | h <;> cases h
  | _ => rfl

end Event

/-- How many sessions were opened. -/
def opened (events : List Event) : Nat := events.countP Event.opens

/-- How many times a session was closed. -/
def closed (events : List Event) : Nat := events.countP Event.closes

/-- Sessions are held one at a time. -/
structure Disciplined (events : List Event) : Prop where
  /-- At any time all sessions have been closed, or all but one. -/
  atMostOne : ∀ before after, events = before ++ after →
    opened before = closed before ∨ opened before = closed before + 1
  /-- A request, and the closing, comes while a session is open. -/
  addressed : ∀ before e after, events = before ++ e :: after → e.needsSession = true →
    opened before = closed before + 1
  /-- In the end all sessions have been closed. -/
  allClosed : opened events = closed events

theorem foldlM_step?_eq {isOpen : Bool} {events : List Event}
    (h : ∀ e ∈ events, e.step? isOpen = some isOpen) :
    events.foldlM Event.step? isOpen = some isOpen := by
  induction events with
  | nil => rfl
  | cons e rest ih =>
    rw [List.foldlM_cons, h e List.mem_cons_self]
    exact ih fun e' he => h e' (List.mem_cons_of_mem _ he)

/-- The state is the number of sessions that are open. -/
theorem opened_eq : ∀ {events : List Event} {before after : Bool},
    events.foldlM Event.step? before = some after →
      opened events + before.toNat = closed events + after.toNat
  | [], before, after, h => by
    obtain rfl := Option.some.inj h
    rfl
  | e :: rest, before, after, h => by
    rw [List.foldlM_cons] at h
    obtain ⟨between, hstep, hrest⟩ := Option.bind_eq_some_iff.1 h
    have ih := opened_eq hrest
    have hfirst : (if e.opens then 1 else 0) + before.toNat =
        (if e.closes then 1 else 0) + between.toNat := by
      obtain ⟨action, reply⟩ := e
      cases action with
      | connect database => cases reply <;> cases before <;> cases hstep <;> rfl
      | poll | print _ | warn _ => cases hstep; rfl
      | _ =>
        cases before <;> cases hstep
        rfl
    simp only [opened, closed, List.countP_cons] at ih ⊢
    omega

theorem isOpen_of_needsSession {e : Event} (h : e.needsSession = true) {before after : Bool}
    (hstep : e.step? before = some after) : before = true := by
  obtain ⟨action, reply⟩ := e
  cases before with
  | true => rfl
  | false =>
    cases action with
    | connect _ | poll | print _ | warn _ => cases h
    | _ => cases hstep

theorem Disciplined.of_foldlM {events : List Event}
    (h : events.foldlM Event.step? false = some false) : Disciplined events where
  atMostOne before after hevents := by
    rw [hevents, List.foldlM_append] at h
    obtain ⟨isOpen, hbefore, -⟩ := Option.bind_eq_some_iff.1 h
    have hcount := opened_eq hbefore
    cases isOpen with
    | false => exact .inl hcount
    | true => exact .inr hcount
  addressed before e after hevents hneeds := by
    rw [hevents, List.foldlM_append] at h
    obtain ⟨isOpen, hbefore, hrest⟩ := Option.bind_eq_some_iff.1 h
    rw [List.foldlM_cons] at hrest
    obtain ⟨_, hstep, -⟩ := Option.bind_eq_some_iff.1 hrest
    obtain rfl := isOpen_of_needsSession hneeds hstep
    exact opened_eq hbefore
  allClosed := opened_eq h

namespace Exec

variable {α : Type}

/-- An orderly run leaves no session open. -/
theorem Orderly.foldlM_step? {may : Action → Prop} {x : Exec α} (h : Orderly may x) :
    ∀ {events : List Event} {result : Except ExecError α}, x.Plays events result →
      events.foldlM Event.step? false = some false := by
  induction h with
  | tell only _ =>
    intro events result hp
    exact foldlM_step?_eq fun e he => Event.step?_of_toUser (only _ _ hp e he) false
  | poll =>
    intro events result hp
    obtain ⟨rfl, -⟩ | ⟨rfl, -⟩ := plays_checkCancelled hp <;> rfl
  | bind _ _ ihFirst ihNext =>
    intro events result hp
    rcases plays_bind.1 hp with ⟨a, before, after, rfl, hb, ha⟩ | ⟨e, hb, -⟩
    · rw [List.foldlM_append, ihFirst hb]
      exact ihNext a ha
    · exact ihFirst hb
  | session database _ inside =>
    intro events result hp
    rcases plays_withSession hp with ⟨e, rfl, -⟩ | ⟨during, reply, rest, rfl, hd, hw⟩
    · rfl
    · have hduring : during.foldlM Event.step? true = some true :=
        foldlM_step?_eq fun e he =>
          Event.step?_of_inSession ((inside.plays_only _ _ hd e he).imp_left And.left)
      have hrest : rest.foldlM Event.step? false = some false :=
        foldlM_step?_eq fun e he => Event.step?_of_toUser (hw.quiet e he) false
      show (during ++ ⟨.disconnect, reply⟩ :: rest).foldlM Event.step? true = some false
      rw [List.foldlM_append, hduring]
      exact hrest
  | attempt _ passes _ ihWork ihHandled =>
    intro events result hp
    obtain ⟨r, before, after, rfl, hb, ha⟩ := plays_lift_bind hp
    rw [List.foldlM_append, ihWork hb]
    by_cases hr : r = .error .cancelled
    · subst hr
      rw [passes] at ha
      obtain ⟨rfl, -⟩ := ha
      rfl
    · exact ihHandled r hr ha

end Exec

/-- Whatever the server answers and whenever the run is cancelled, sessions are held one at a time,
everything that goes to a session goes to the one that is open, and each one that was opened has
been closed once in the end. -/
theorem session_discipline (ctx : Context) (runner : Runner) {events : List Event}
    {result : Except ExecError Outcome} (h : (runner.run ctx).Plays events result) :
    Disciplined events :=
  .of_foldlM ((runner.orderly ctx).foldlM_step? h)

open Rehearsal

/-- The server cancels an upgrade in its first batch, which shows when the last of four sessions is
open, and no session can be closed without a failure. -/
theorem session_discipline_cancelled :
    let server : MemoryServer := { cancelling := ["create"], closeFails := true }
    let runner : Runner := .upgrade { source := "/sct_1.sql", changelog := true }
    let work := runner.run Upgrade.oneUpgrade
    let events := work.run.trace MemoryServer.host server
    (work.run.exec MemoryServer.host server).1 = .error .cancelled ∧ opened events = 4 ∧
      Disciplined events :=
  ⟨rfl, by decide +kernel, session_discipline _ _ (Run.plays_exec MemoryServer.host _ _)⟩

end SqlBuild
