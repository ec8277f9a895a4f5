import SqlBuild.Run.Context

/-!
# Plays

A play of a run is one way it can go: the actions it does, each with the answer that came back, and
the result it ends with. The answers may be any. What a host makes of a run is one of its plays
(`plays_exec`), so what holds of all plays holds whatever the server answers and whenever the run is
cancelled. A play of two runs in a row is a play of the first and then one of the second
(`plays_bind`).
-/

namespace SqlBuild

/-- An action of a run with the answer that came back. -/
structure Event where
  action : Action
  reply : action.Reply

namespace Run

variable {α β : Type}

/-- Whether the run can go this way. -/
def Plays : Run α → List Event → α → Prop
  | done a, events, b => events = [] ∧ a = b
  | ask action next, events, b =>
    ∃ reply rest, events = ⟨action, reply⟩ :: rest ∧ (next reply).Plays rest b

/-- What a host answers to the actions of a run. -/
def trace {σ : Type} (host : Host σ) : Run α → σ → List Event
  | done _, _ => []
  | ask action next, s =>
    ⟨action, (host.answer action s).1⟩ ::
      trace host (next (host.answer action s).1) (host.answer action s).2

theorem plays_exec {σ : Type} (host : Host σ) :
    ∀ (r : Run α) (s : σ), r.Plays (r.trace host s) (r.exec host s).1
  | done _, _ => ⟨rfl, rfl⟩
  | ask _ next, _ => ⟨_, _, rfl, plays_exec host (next _) _⟩

@[simp] theorem plays_done {a b : α} {events : List Event} :
    (done a).Plays events b ↔ events = [] ∧ a = b := Iff.rfl

theorem plays_act (action : Action) {events : List Event} {reply : action.Reply} :
    (act action).Plays events reply ↔ events = [⟨action, reply⟩] := by
  constructor
  · rintro ⟨answer, rest, rfl, rfl, rfl⟩
    rfl
  · rintro rfl
    exact ⟨reply, [], rfl, rfl, rfl⟩

theorem plays_bind {f : α → Run β} {b : β} : ∀ {r : Run α} {events : List Event},
    (r >>= f).Plays events b ↔
      ∃ a before after, events = before ++ after ∧ r.Plays before a ∧ (f a).Plays after b
  | done a, events => by
    constructor
    · intro h
      exact ⟨a, [], events, rfl, ⟨rfl, rfl⟩, h⟩
    · rintro ⟨a', before, after, rfl, ⟨rfl, rfl⟩, h⟩
      exact h
  | ask action next, events => by
    constructor
    · rintro ⟨reply, rest, rfl, h⟩
      obtain ⟨a, before, after, rfl, hr, hf⟩ := plays_bind.1 h
      exact ⟨a, ⟨action, reply⟩ :: before, after, rfl, ⟨reply, before, rfl, hr⟩, hf⟩
    · rintro ⟨a, before, after, rfl, ⟨reply, rest, rfl, hr⟩, hf⟩
      exact ⟨reply, rest ++ after, rfl, plays_bind.2 ⟨a, rest, after, rfl, hr, hf⟩⟩

theorem plays_map {f : α → β} {r : Run α} {events : List Event} {b : β} :
    (f <$> r).Plays events b ↔ ∃ a, r.Plays events a ∧ f a = b := by
  rw [map_eq_pure_bind, plays_bind]
  constructor
  · rintro ⟨a, before, after, rfl, hr, rfl, rfl⟩
    rw [List.append_nil]
    exact ⟨a, hr, rfl⟩
  · rintro ⟨a, hr, rfl⟩
    exact ⟨a, events, [], (List.append_nil events).symm, hr, rfl, rfl⟩

/-- The run does no other actions, whatever is answered. -/
def Only (P : Action → Prop) (r : Run α) : Prop :=
  ∀ events a, r.Plays events a → ∀ e ∈ events, P e.action

variable {P : Action → Prop}

theorem only_done (a : α) : (done a).Only P := by
  rintro events b ⟨rfl, -⟩ e he
  cases he

theorem only_act {action : Action} (h : P action) : (act action).Only P := by
  intro events reply hp e he
  obtain rfl := (plays_act action).1 hp
  rw [List.mem_singleton.1 he]
  exact h

theorem Only.mono {Q : Action → Prop} {r : Run α} (h : r.Only P)
    (hpq : ∀ action, P action → Q action) : r.Only Q :=
  fun events a hp e he => hpq _ (h events a hp e he)

theorem Only.bind {r : Run α} {f : α → Run β} (hr : r.Only P) (hf : ∀ a, (f a).Only P) :
    (r >>= f).Only P := by
  intro events b h e he
  obtain ⟨a, before, after, rfl, hb, ha⟩ := plays_bind.1 h
  rcases List.mem_append.1 he with he | he
  · exact hr _ _ hb e he
  · exact hf a _ _ ha e he

end Run

namespace Exec

variable {α β : Type}

/-- Whether a run that may end early can go this way. -/
def Plays (x : Exec α) (events : List Event) (result : Except ExecError α) : Prop :=
  x.run.Plays events result

@[simp] theorem plays_pure {a : α} {events : List Event} {result : Except ExecError α} :
    (pure a : Exec α).Plays events result ↔ events = [] ∧ .ok a = result := Iff.rfl

@[simp] theorem plays_throw {e : ExecError} {events : List Event} {result : Except ExecError α} :
    (throw e : Exec α).Plays events result ↔ events = [] ∧ .error e = result := Iff.rfl

@[simp] theorem plays_ofRun {r : Run (Except ExecError α)} {events : List Event}
    {result : Except ExecError α} : (ofRun r).Plays events result ↔ r.Plays events result := Iff.rfl

@[simp] theorem plays_lift {r : Run α} {events : List Event} {result : Except ExecError α} :
    (liftM r : Exec α).Plays events result ↔ ∃ a, r.Plays events a ∧ .ok a = result :=
  Run.plays_map

/-- The second part is played when the first one has not ended the run. -/
theorem plays_bind {x : Exec α} {f : α → Exec β} {events : List Event}
    {result : Except ExecError β} : (x >>= f).Plays events result ↔
      (∃ a before after, events = before ++ after ∧ x.Plays before (.ok a) ∧
        (f a).Plays after result) ∨
      ∃ e, x.Plays events (.error e) ∧ result = .error e := by
  rw [Plays, ExceptT.run_bind, Run.plays_bind]
  constructor
  · rintro ⟨r, before, after, rfl, hx, hf⟩
    cases r with
    | ok a => exact .inl ⟨a, before, after, rfl, hx, hf⟩
    | error e =>
      obtain ⟨rfl, rfl⟩ := hf
      rw [List.append_nil]
      exact .inr ⟨e, hx, rfl⟩
  · rintro (⟨a, before, after, rfl, hx, hf⟩ | ⟨e, hx, rfl⟩)
    · exact ⟨.ok a, before, after, rfl, hx, hf⟩
    · exact ⟨.error e, events, [], (List.append_nil events).symm, hx, rfl, rfl⟩

theorem plays_map {f : α → β} {x : Exec α} {events : List Event} {result : Except ExecError β} :
    (f <$> x).Plays events result ↔ ∃ r, x.Plays events r ∧ f <$> r = result := by
  rw [Plays, ExceptT.run_map, Run.plays_map]
  rfl

/-- The run does no other actions, whatever is answered. -/
def Only (P : Action → Prop) (x : Exec α) : Prop :=
  ∀ events result, x.Plays events result → ∀ e ∈ events, P e.action

variable {P : Action → Prop}

theorem only_pure (a : α) : (pure a : Exec α).Only P := Run.only_done _

theorem only_ofRun {r : Run (Except ExecError α)} (h : r.Only P) : (ofRun r).Only P := h

theorem only_lift {r : Run α} (h : r.Only P) : (liftM r : Exec α).Only P := by
  intro events result hp
  obtain ⟨a, hr, -⟩ := plays_lift.1 hp
  exact h events a hr

theorem Only.bind {x : Exec α} {f : α → Exec β} (hx : x.Only P) (hf : ∀ a, (f a).Only P) :
    (x >>= f).Only P := by
  intro events result h e he
  rcases plays_bind.1 h with ⟨a, before, after, rfl, hb, ha⟩ | ⟨_, hb, -⟩
  · rcases List.mem_append.1 he with he | he
    · exact hx _ _ hb e he
    · exact hf a _ _ ha e he
  · exact hx _ _ hb e he

end Exec

end SqlBuild
