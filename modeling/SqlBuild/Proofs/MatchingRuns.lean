import SqlBuild.Proofs.Preview

/-!
# Runs that match

Two runs match before a server when the server cannot tell them apart: started from states that are
the same to it, they deal with it in the same way, get the same answers and leave it the same, and
their results are related (`Run.Matches`). What they tell the user plays no part, so a run that only
tells something matches one that does nothing (`Run.matches_told`); everything else is matched step
by step.
-/

namespace SqlBuild

/-- All that concerns the server, with its answers: everything but messages to the user and looks at
the token. -/
def dealings (events : List Event) : List Event := events.filter (!·.action.sparesServer)

theorem dealings_append (before after : List Event) :
    dealings (before ++ after) = dealings before ++ dealings after := List.filter_append _ _

/-- `server` shows what a host answers from. Messages to the user leave it alone, and so do looks at
the token; how the token reads may depend on it. -/
structure Host.Serves {σ τ : Type} (host : Host σ) (server : σ → τ) : Prop where
  spares : host.Spares server
  answers : ∀ action s s', action.toUser = false → server s = server s' →
    (host.answer action s).1 = (host.answer action s').1 ∧
      server (host.answer action s).2 = server (host.answer action s').2

namespace Run

section

variable {σ α β : Type} (host : Host σ)

theorem trace_bind (r : Run α) (f : α → Run β) (s : σ) : (r >>= f).trace host s =
    r.trace host s ++ (f (r.exec host s).1).trace host (r.exec host s).2 := by
  induction r generalizing s with
  | done a => rfl
  | ask action next ih => exact congrArg (_ :: ·) (ih _ _)

end

variable {σ τ α β γ δ : Type} {host : Host σ} {server : σ → τ} {R : α → β → Prop}

/-- The server cannot tell the two runs apart, and their results are related by `R`. -/
def Matches (host : Host σ) (server : σ → τ) (R : α → β → Prop) (r : Run α) (r' : Run β) : Prop :=
  ∀ s s', server s = server s' → R (r.exec host s).1 (r'.exec host s').1 ∧
    server (r.exec host s).2 = server (r'.exec host s').2 ∧
      dealings (r.trace host s) = dealings (r'.trace host s')

theorem matches_done {a : α} {b : β} (h : R a b) : Matches host server R (done a) (done b) :=
  fun _ _ hs => ⟨h, hs, rfl⟩

theorem Matches.mono {S : α → β → Prop} {r : Run α} {r' : Run β} (h : Matches host server R r r')
    (hmono : ∀ a b, R a b → S a b) : Matches host server S r r' :=
  fun s s' hs => (h s s' hs).imp_left (hmono _ _)

theorem Matches.bind {S : γ → δ → Prop} {r : Run α} {r' : Run β} {f : α → Run γ} {g : β → Run δ}
    (h : Matches host server R r r') (hnext : ∀ a b, R a b → Matches host server S (f a) (g b)) :
    Matches host server S (r >>= f) (r' >>= g) := by
  intro s s' hs
  obtain ⟨hresult, hserver, hdealings⟩ := h s s' hs
  obtain ⟨hend, hserver, hmore⟩ := hnext _ _ hresult _ _ hserver
  rw [exec_bind, exec_bind, trace_bind, trace_bind, dealings_append, dealings_append, hdealings,
    hmore]
  exact ⟨hend, hserver, rfl⟩

/-- A request, or a look at the token. -/
theorem matches_act (hhost : host.Serves server) {action : Action} (h : action.toUser = false) :
    Matches host server Eq (act action) (act action) := by
  intro s s' hs
  obtain ⟨hreply, hserver⟩ := hhost.answers action s s' h hs
  refine ⟨hreply, hserver, ?_⟩
  show dealings [⟨action, (host.answer action s).1⟩] =
    dealings [⟨action, (host.answer action s').1⟩]
  rw [hreply]

theorem told_spares (hhost : host.Serves server) {r : Run α} (h : r.Only (·.toUser = true))
    (s : σ) : server (r.exec host s).2 = server s ∧ dealings (r.trace host s) = [] := by
  have hspares : ∀ e ∈ r.trace host s, e.action.sparesServer = true := by
    intro e he
    simp [Action.sparesServer, h _ _ (plays_exec host r s) e he]
  refine ⟨exec_of_spares hhost.spares r s hspares, List.filter_eq_nil_iff.2 fun e he => ?_⟩
  simp [hspares e he]

/-- What is only told to the user does not concern the server. -/
theorem matches_told (hhost : host.Serves server) {r r' : Run Unit} (h : r.Only (·.toUser = true))
    (h' : r'.Only (·.toUser = true)) : Matches host server Eq r r' := by
  intro s s' hs
  obtain ⟨hserver, hdealings⟩ := told_spares hhost h s
  obtain ⟨hserver', hdealings'⟩ := told_spares hhost h' s'
  exact ⟨rfl, by rw [hserver, hserver', hs], by rw [hdealings, hdealings']⟩

end Run

/-- Both succeed, or both fail. -/
def Outcome.Alike (o o' : Outcome) : Prop := o.isSuccess = o'.isSuccess

namespace Exec

variable {σ τ α β γ δ : Type} {host : Host σ} {server : σ → τ} {R : α → β → Prop}

/-- The same error, or related results. -/
def Agree (R : α → β → Prop) : Except ExecError α → Except ExecError β → Prop
  | .ok a, .ok b => R a b
  | .error e, .error e' => e = e'
  | _, _ => False

theorem Agree.map_eq {r : Except ExecError α} {r' : Except ExecError β} {f : α → γ} {g : β → γ}
    (h : Agree R r r') (hsame : ∀ a b, R a b → f a = g b) : f <$> r = g <$> r' := by
  cases r with
  | ok a =>
    cases r' with
    | ok b => exact congrArg _ (hsame a b h)
    | error e => exact h.elim
  | error e =>
    cases r' with
    | ok b => exact h.elim
    | error e' => exact congrArg _ h

/-- Runs that may end early match when they end early for the same reason. -/
def Matches (host : Host σ) (server : σ → τ) (R : α → β → Prop) (x : Exec α) (y : Exec β) : Prop :=
  Run.Matches host server (Agree R) x.run y.run

theorem matches_pure {a : α} {b : β} (h : R a b) : Matches host server R (pure a) (pure b) :=
  Run.matches_done h

theorem Matches.bind {S : γ → δ → Prop} {x : Exec α} {y : Exec β} {f : α → Exec γ}
    {g : β → Exec δ} (h : Matches host server R x y)
    (hnext : ∀ a b, R a b → Matches host server S (f a) (g b)) :
    Matches host server S (x >>= f) (y >>= g) := by
  rw [Matches, ExceptT.run_bind, ExceptT.run_bind]
  refine Run.Matches.bind h fun result result' hagree => ?_
  cases result with
  | ok a =>
    cases result' with
    | ok b => exact hnext a b hagree
    | error e => exact hagree.elim
  | error e =>
    cases result' with
    | ok b => exact hagree.elim
    | error e' => exact Run.matches_done hagree

/-- Something may be made of one of the two results. -/
theorem Matches.map_left {S : γ → β → Prop} {x : Exec α} {y : Exec β} {f : α → γ}
    (h : Matches host server R x y) (hresult : ∀ a b, R a b → S (f a) b) :
    Matches host server S (x >>= fun a => pure (f a)) y := by
  rw [← bind_pure y]
  exact h.bind fun a b hab => matches_pure (hresult a b hab)

theorem matches_lift {r : Run α} {r' : Run β} (h : Run.Matches host server R r r') :
    Matches host server R (liftM r) (liftM r') :=
  Run.Matches.bind h fun _ _ hresult => Run.matches_done hresult

theorem matches_told (hhost : host.Serves server) {r r' : Run Unit} (h : r.Only (·.toUser = true))
    (h' : r'.Only (·.toUser = true)) : Matches host server Eq (liftM r) (liftM r') :=
  matches_lift (Run.matches_told hhost h h')

/-- One of the two may tell the user something before. -/
theorem Matches.tell (hhost : host.Serves server) {x : Exec α} {y : Exec β}
    (h : Matches host server R x y) {r : Run Unit} (hr : r.Only (·.toUser = true)) :
    Matches host server R x (liftM r >>= fun _ => y) :=
  Matches.bind (x := liftM (Run.done ())) (matches_told hhost (Run.only_done ()) hr) fun _ _ _ => h

theorem Matches.tellIf (hhost : host.Serves server) {x : Exec α} {y : Exec β}
    (h : Matches host server R x y) {r : Run Unit} (hr : r.Only (·.toUser = true)) (asked : Bool) :
    Matches host server R x (do
      if asked then liftM r
      y) := by
  cases asked with
  | true => exact h.tell hhost hr
  | false => exact h

theorem matches_ofRun {r : Run (Except ExecError α)} (h : Run.Matches host server Eq r r) :
    Matches host server Eq (ofRun r) (ofRun r) := by
  refine Run.Matches.mono h ?_
  rintro result _ rfl
  cases result <;> rfl

theorem matches_checkCancelled (hhost : host.Serves server) :
    Matches host server Eq checkCancelled checkCancelled := by
  refine (matches_lift (Run.matches_act hhost rfl)).bind ?_
  rintro reply _ rfl
  cases reply <;> exact Run.matches_done rfl

/-- One of the two may look at the token before, if it finds it unset. -/
theorem Matches.afterLook (hhost : host.Serves server) {x : Exec α} {y : Exec β}
    (h : Matches host server R x y) {s : σ} (hunset : (host.answer .poll s).1 = false) :
    let looked := checkCancelled >>= fun _ => x
    Agree R (looked.run.exec host s).1 (y.run.exec host s).1 ∧
      server (looked.run.exec host s).2 = server (y.run.exec host s).2 ∧
        dealings (looked.run.trace host s) = dealings (y.run.trace host s) := by
  intro looked
  let after (reply : Bool) : Exec α := (if reply then throw .cancelled else pure ()) >>= fun _ => x
  have hexec : looked.run.exec host s =
      (after (host.answer .poll s).1).run.exec host (host.answer .poll s).2 := rfl
  have htrace : dealings (looked.run.trace host s) =
      dealings ((after (host.answer .poll s).1).run.trace host (host.answer .poll s).2) := rfl
  rw [hexec, htrace, hunset]
  exact h _ _ (hhost.spares .poll s rfl)

theorem Matches.withSession (hhost : host.Serves server) {work : Exec α} {work' : Exec β}
    (h : Matches host server R work work') (database : Option Text) :
    Matches host server R (withSession database work) (withSession database work') := by
  refine (matches_ofRun (Run.matches_act hhost rfl)).bind fun _ _ _ => ?_
  refine (matches_lift h).bind fun result result' hagree => ?_
  have hclose : Run.Matches host server Eq Run.disconnect Run.disconnect := by
    refine (Run.matches_act hhost rfl).bind ?_
    rintro reply _ rfl
    cases reply with
    | ok _ => exact Run.matches_done rfl
    | error e => exact Run.matches_told hhost (Run.only_act rfl) (Run.only_act rfl)
  exact (matches_lift hclose).bind fun _ _ _ => Run.matches_done hagree

/-- Work that matches is counted alike. -/
theorem Matches.orFold (hhost : host.Serves server) {work work' : Exec Outcome}
    (h : Matches host server Outcome.Alike work work') :
    Matches host server Outcome.Alike (orFold work) (orFold work') := by
  refine (matches_lift h).bind fun result result' hagree => ?_
  cases result with
  | ok outcome =>
    cases result' with
    | ok outcome' => exact matches_pure hagree
    | error e => exact hagree.elim
  | error e =>
    cases result' with
    | ok outcome' => exact hagree.elim
    | error e' =>
      obtain rfl : e = e' := hagree
      have hfail : Matches host server Outcome.Alike (failWith e.message) (failWith e.message) :=
        (matches_told hhost (Run.only_write _) (Run.only_write _)).bind fun _ _ _ =>
          matches_pure rfl
      cases e with
      | cancelled => exact Run.matches_done rfl
      | _ => exact hfail

end Exec

/-- Batches are sent alike, whatever is told of them. -/
theorem Batch.matches_runFrom {σ τ : Type} {host : Host σ} {server : σ → τ}
    (hhost : host.Serves server) {observe observe' : Nat → Text → BatchResult → Run Unit}
    (hobs : ∀ index batch result, (observe index batch result).Only (·.toUser = true))
    (hobs' : ∀ index batch result, (observe' index batch result).Only (·.toUser = true)) :
    ∀ (batches : List Text) (index index' : Nat), Exec.Matches host server Eq
      (runFrom observe index batches) (runFrom observe' index' batches)
  | [], _, _ => Exec.matches_pure rfl
  | batch :: rest, index, index' => by
    rw [runFrom, runFrom]
    split
    · exact Exec.matches_pure rfl
    · refine (Exec.matches_checkCancelled hhost).bind fun _ _ _ => ?_
      refine (Exec.matches_lift (Run.matches_act hhost rfl)).bind ?_
      rintro result _ rfl
      refine (Exec.matches_told hhost (hobs _ _ _) (hobs' _ _ _)).bind fun _ _ _ => ?_
      refine (matches_runFrom hhost hobs hobs' rest (index + 1) (index' + 1)).bind ?_
      rintro results _ rfl
      exact Exec.matches_pure rfl

end SqlBuild
