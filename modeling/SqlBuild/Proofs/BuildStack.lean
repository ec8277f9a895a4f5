import SqlBuild.Proofs.BuildParts
import SqlBuild.Proofs.FileTrees
import SqlBuild.Proofs.SessionPlays
import SqlBuild.Rehearsal.MemoryServer

/-!
# The stack of running scripts

A build gives every nested script the scripts that are running and the number of levels that are
left. A stack that is kept in one place says the same: a script is put on it before its lines are
run, and taken off when they have ended, with an outcome or with an error (`Stacked.within`). Such a
build needs to be told how deep it may go, but no further than one level more than are allowed, and
is then the build that has no stack to keep (`Stacked.tracks_enter`).
-/

namespace SqlBuild

namespace Build

/-- The scripts that are running, the innermost first, and all stacks that there have been. -/
structure Stacks where
  now : List Text := []
  past : List (List Text) := []

/-- Why a build that keeps a stack ends early. -/
inductive Stop
  | error (e : ExecError)
  /-- It has come to where it was told not to go deeper. -/
  | givenUp

namespace Stacks

def become (s : Stacks) (stack : List Text) : Stacks := ⟨stack, stack :: s.past⟩

def push (identity : Text) (s : Stacks) : Stacks := s.become (identity :: s.now)

def pop (s : Stacks) : Stacks := s.become s.now.tail

end Stacks

/-- A run that may end early and keeps a stack. -/
abbrev Stacked := ExceptT Stop (StateT Stacks Run)

namespace Stacked

variable {α β : Type}

/-- The result of a run without a stack. -/
def ended (r : Except ExecError α) : Except Stop α := r.mapError Stop.error

def ofExec (x : Exec α) : Stacked α := ExceptT.mk (StateT.lift (ended <$> x.run))

/-- Does `work` with a script on the stack, which is taken off whatever the work ends with. -/
def within (identity : Text) (work : Stacked α) : Stacked α := ExceptT.mk do
  modify (Stacks.push identity)
  let result ← work.run
  modify Stacks.pop
  return result

def refuse (why : Refusal) : Stacked Outcome := ofExec (Exec.failWith why.message)

/-- Runs the command of a line. -/
def dispatch (ctx : Context) (vars : RunVariables) (enter : RunVariables → Stacked Outcome)
    (line : BuildLine) : Stacked Outcome :=
  match line.command with
  | .runSql => ofExec (Script.runLine ctx vars line)
  | .runCreate =>
    match line.source with
    | none => refuse (.noSource .runCreate "build script")
    | some source => enter (vars.nested source)
  | .runUpgrade => ofExec (runUpgradeLine ctx vars line)
  | .compile kind => ofExec (runCompilerLine ctx vars kind)

/-- Runs lines one after the other and adds up their outcomes. -/
def runLines (ctx : Context) (vars : RunVariables) (enter : RunVariables → Stacked Outcome) :
    List Text → Outcome → Stacked Outcome
  | [], total => pure total
  | line :: rest, total => do
    ofExec Exec.checkCancelled
    match ParsedLine.ofLine ctx.resolveWord ctx.env.root line with
    | .command found =>
      let outcome ← dispatch ctx vars enter found
      runLines ctx vars enter rest (total + outcome)
    | _ => runLines ctx vars enter rest total

/-- Runs a build script, to at most `levels` levels below it. -/
def enter (ctx : Context) : Nat → RunVariables → Stacked Outcome
  | 0, _ => throw .givenUp
  | levels + 1, vars => do
    let path := ctx.locate vars.source
    let stack := (← get).now
    if !ctx.files.isFile path then refuse (.noBuildScript path)
    else if ctx.files.identity path ∈ stack then refuse (.cycle path)
    else if maxDepth ≤ stack.length then refuse (.tooDeep path)
    else
      match ctx.files.readLossy path with
      | .error cause => refuse (.unreadable path cause)
      | .ok content =>
        within (ctx.files.identity path)
          (runLines ctx vars (enter ctx levels) (Text.lines content) {})

/-- The command that runs a build script. -/
def build (ctx : Context) (levels : Nat) (vars : RunVariables) : Stacked Outcome := do
  ofExec (Audit.writeIfDue ctx "runcreate" vars)
  let outcome ← enter ctx levels vars
  ofExec (liftM (Run.emit (summary outcome)))
  return outcome

/-- Whether a run that starts with the stacks `s` can go this way and end with the stacks `s'`. -/
def Plays (x : Stacked α) (s : Stacks) (events : List Event) (result : Except Stop α)
    (s' : Stacks) : Prop :=
  (x.run.run s).Plays events (result, s')

section Plays

variable {s s' : Stacks} {events : List Event}

theorem plays_exec {σ : Type} (host : Host σ) (x : Stacked α) (s : Stacks) (t : σ) :
    x.Plays s ((x.run.run s).trace host t) ((x.run.run s).exec host t).1.1
      ((x.run.run s).exec host t).1.2 :=
  Run.plays_exec host (x.run.run s) t

theorem plays_pure {a : α} {result : Except Stop α} :
    (pure a : Stacked α).Plays s events result s' ↔ events = [] ∧ result = .ok a ∧ s' = s := by
  constructor
  · rintro ⟨rfl, h⟩
    obtain ⟨rfl, rfl⟩ := Prod.mk.inj h
    exact ⟨rfl, rfl, rfl⟩
  · rintro ⟨rfl, rfl, rfl⟩
    exact ⟨rfl, rfl⟩

theorem plays_ofExec {x : Exec α} {result : Except Stop α} :
    (ofExec x).Plays s events result s' ↔ s' = s ∧ ∃ r, x.Plays events r ∧ ended r = result := by
  rw [Plays, ofExec, ExceptT.run_mk, StateT.run_lift, Run.plays_bind]
  constructor
  · rintro ⟨r, before, after, rfl, hr, rfl, heq⟩
    obtain ⟨rfl, rfl⟩ := Prod.mk.inj heq
    rw [List.append_nil]
    exact ⟨rfl, Run.plays_map.1 hr⟩
  · rintro ⟨rfl, hr⟩
    exact ⟨result, events, [], (List.append_nil events).symm, Run.plays_map.2 hr, rfl, rfl⟩

theorem plays_bind {x : Stacked α} {f : α → Stacked β} {result : Except Stop β} :
    (x >>= f).Plays s events result s' ↔
      (∃ a before after mid, events = before ++ after ∧ x.Plays s before (.ok a) mid ∧
        (f a).Plays mid after result s') ∨
      ∃ stop, x.Plays s events (.error stop) s' ∧ result = .error stop := by
  rw [Plays, ExceptT.run_bind, StateT.run_bind, Run.plays_bind]
  constructor
  · rintro ⟨⟨r, mid⟩, before, after, rfl, hx, hf⟩
    cases r with
    | ok a => exact .inl ⟨a, before, after, mid, rfl, hx, hf⟩
    | error stop =>
      obtain ⟨rfl, heq⟩ := hf
      obtain ⟨rfl, rfl⟩ := Prod.mk.inj heq
      rw [List.append_nil]
      exact .inr ⟨stop, hx, rfl⟩
  · rintro (⟨a, before, after, mid, rfl, hx, hf⟩ | ⟨stop, hx, rfl⟩)
    · exact ⟨(.ok a, mid), before, after, rfl, hx, hf⟩
    · exact ⟨(.error stop, s'), events, [], (List.append_nil events).symm, hx, rfl, rfl⟩

theorem plays_get_bind {f : Stacks → Stacked α} {result : Except Stop α} :
    (get >>= f : Stacked α).Plays s events result s' ↔ (f s).Plays s events result s' := Iff.rfl

theorem plays_within {identity : Text} {work : Stacked α} {result : Except Stop α} :
    (within identity work).Plays s events result s' ↔
      ∃ mid, work.Plays (s.push identity) events result mid ∧ s' = mid.pop := by
  have hrun : (within identity work).run.run s =
      work.run.run (s.push identity) >>= fun ended => pure (ended.1, ended.2.pop) := rfl
  rw [Plays, hrun, Run.plays_bind]
  constructor
  · rintro ⟨⟨r, mid⟩, before, after, rfl, hw, rfl, heq⟩
    obtain ⟨rfl, rfl⟩ := Prod.mk.inj heq
    rw [List.append_nil]
    exact ⟨mid, hw, rfl⟩
  · rintro ⟨mid, hw, rfl⟩
    exact ⟨(result, mid), events, [], (List.append_nil events).symm, hw, rfl, rfl⟩

end Plays

/-- A stack without repetition and of no more levels than are allowed. -/
def Fits (stack : List Text) : Prop := stack.Nodup ∧ stack.length ≤ maxDepth

/-- The stack is as it was, and all stacks since then fit. -/
def Restored (s s' : Stacks) : Prop :=
  s'.now = s.now ∧ ∃ between, s'.past = between ++ s.past ∧ ∀ stack ∈ between, Fits stack

theorem Restored.refl (s : Stacks) : Restored s s := ⟨rfl, [], rfl, by simp⟩

theorem Restored.trans {s s' s'' : Stacks} (h : Restored s s') (h' : Restored s' s'') :
    Restored s s'' := by
  obtain ⟨hnow, between, hpast, hfits⟩ := h
  obtain ⟨hnow', between', hpast', hfits'⟩ := h'
  refine ⟨hnow'.trans hnow, between' ++ between, ?_, ?_⟩
  · rw [hpast', hpast, List.append_assoc]
  · exact List.forall_mem_append.2 ⟨hfits', hfits⟩

/-- With the stacks `s` at its start, `x` goes as `y` and leaves the stack as it was. -/
structure Tracks (s : Stacks) (x : Stacked α) (y : Exec α) : Prop where
  sound : ∀ {events result s'}, x.Plays s events result s' →
    (∃ r, result = ended r ∧ y.Plays events r) ∧ Restored s s'
  complete : ∀ {events r}, y.Plays events r → ∃ s', x.Plays s events (ended r) s'

variable {s : Stacks}

theorem tracks_ofExec (y : Exec α) : Tracks s (ofExec y) y where
  sound h := by
    obtain ⟨rfl, r, hr, rfl⟩ := plays_ofExec.1 h
    exact ⟨⟨r, rfl, hr⟩, Restored.refl _⟩
  complete h := ⟨s, plays_ofExec.2 ⟨rfl, _, h, rfl⟩⟩

theorem tracks_pure (a : α) : Tracks s (pure a) (pure a) where
  sound h := by
    obtain ⟨rfl, rfl, rfl⟩ := plays_pure.1 h
    exact ⟨⟨.ok a, rfl, rfl, rfl⟩, Restored.refl _⟩
  complete h := by
    obtain ⟨rfl, rfl⟩ := h
    exact ⟨s, plays_pure.2 ⟨rfl, rfl, rfl⟩⟩

theorem Tracks.bind {x : Stacked α} {y : Exec α} {f : α → Stacked β} {g : α → Exec β}
    (hx : Tracks s x y) (hf : ∀ a s', s'.now = s.now → Tracks s' (f a) (g a)) :
    Tracks s (x >>= f) (y >>= g) where
  sound h := by
    rcases plays_bind.1 h with ⟨a, before, after, mid, rfl, hplays, hrest⟩ | ⟨stop, hplays, rfl⟩
    · obtain ⟨⟨r, heq, hy⟩, hback⟩ := hx.sound hplays
      cases r with
      | error e => cases heq
      | ok b =>
        cases heq
        obtain ⟨⟨r, rfl, hg⟩, hback'⟩ := (hf a mid hback.1).sound hrest
        exact ⟨⟨r, rfl, Exec.plays_bind.2 (.inl ⟨a, before, after, rfl, hy, hg⟩)⟩,
          hback.trans hback'⟩
    · obtain ⟨⟨r, heq, hy⟩, hback⟩ := hx.sound hplays
      cases r with
      | ok b => cases heq
      | error e =>
        cases heq
        exact ⟨⟨.error e, rfl, Exec.plays_bind.2 (.inr ⟨e, hy, rfl⟩)⟩, hback⟩
  complete h := by
    rcases Exec.plays_bind.1 h with ⟨a, before, after, rfl, hy, hg⟩ | ⟨e, hy, rfl⟩
    · obtain ⟨mid, hplays⟩ := hx.complete hy
      obtain ⟨s', hrest⟩ := (hf a mid (hx.sound hplays).2.1).complete hg
      exact ⟨s', plays_bind.2 (.inl ⟨a, before, after, mid, rfl, hplays, hrest⟩)⟩
    · obtain ⟨s', hplays⟩ := hx.complete hy
      exact ⟨s', plays_bind.2 (.inr ⟨.error e, hplays, rfl⟩)⟩

theorem tracks_get {f : Stacks → Stacked α} {y : Exec α} (h : Tracks s (f s) y) :
    Tracks s (get >>= f) y where
  sound hplays := h.sound (plays_get_bind.1 hplays)
  complete hy := (h.complete hy).imp fun _ => plays_get_bind.2

theorem Restored.pop {identity : Text} {mid : Stacks} (h : Restored (s.push identity) mid)
    (hfits : Fits (identity :: s.now)) : Restored s mid.pop := by
  obtain ⟨hnow, between, hpast, hbetween⟩ := h
  have htail : mid.now.tail = s.now := by
    rw [hnow]
    rfl
  have hstill : Fits s.now := ⟨hfits.1.of_cons, Nat.le_of_succ_le hfits.2⟩
  refine ⟨htail, s.now :: between ++ [identity :: s.now], ?_, ?_⟩
  · rw [Stacks.pop, Stacks.become, htail, hpast]
    simp [Stacks.push, Stacks.become]
  · simp only [List.cons_append, List.forall_mem_cons, List.forall_mem_append]
    exact ⟨hstill, hbetween, hfits, by simp⟩

theorem Tracks.within {identity : Text} {work : Stacked α} {y : Exec α}
    (h : Tracks (s.push identity) work y) (hfits : Fits (identity :: s.now)) :
    Tracks s (within identity work) y where
  sound hplays := by
    obtain ⟨mid, hwork, rfl⟩ := plays_within.1 hplays
    exact ⟨(h.sound hwork).1, (h.sound hwork).2.pop hfits⟩
  complete hy := by
    obtain ⟨mid, hwork⟩ := h.complete hy
    exact ⟨mid.pop, plays_within.2 ⟨mid, hwork, rfl⟩⟩

variable {ctx : Context} {vars : RunVariables}

theorem tracks_runLines {enter : RunVariables → Stacked Outcome}
    {nested : RunVariables → Exec Outcome} {now : List Text}
    (henter : ∀ s vars, s.now = now → Tracks s (enter vars) (nested vars)) :
    ∀ (lines : List Text) (total : Outcome) (s : Stacks), s.now = now →
      Tracks s (runLines ctx vars enter lines total) (Build.runLines ctx vars nested lines total)
  | [], total, s, _ => tracks_pure total
  | line :: rest, total, s, hs => by
    have hrest : ∀ total s', s'.now = s.now → Tracks s' (runLines ctx vars enter rest total)
        (Build.runLines ctx vars nested rest total) :=
      fun total s' h => tracks_runLines henter rest total s' (h.trans hs)
    have hdispatch : ∀ found s', s'.now = now →
        Tracks s' (dispatch ctx vars enter found) (Build.dispatch ctx vars nested found) := by
      intro found s' h
      unfold dispatch Build.dispatch runCreateLine
      cases found.command with
      | runCreate =>
        cases found.source with
        | none =>
          rw [refuse, noSource_message.2.1]
          exact tracks_ofExec _
        | some source => exact henter s' _ h
      | _ => exact tracks_ofExec _
    rw [runLines, Build.runLines]
    refine (tracks_ofExec _).bind fun _ s' h => ?_
    cases ParsedLine.ofLine ctx.resolveWord ctx.env.root line with
    | command found =>
      exact (hdispatch found s' (h.trans hs)).bind fun outcome s'' h' => hrest _ s'' (h'.trans h)
    | _ => exact hrest total s' h

/-- A build script is run with the stack as it is run without: there are levels enough, the stack
fits at every moment, and is in the end as it was. -/
theorem tracks_enter : ∀ (levels : Nat) (now : List Text), Fits now →
    maxDepth < levels + now.length → ∀ (s : Stacks) (vars : RunVariables), s.now = now →
      Tracks s (enter ctx levels vars) (runScript ctx (maxDepth - now.length) now vars)
  | 0, now, hfits, hlevels => by
    have := hfits.2
    omega
  | levels + 1, now, hfits, hlevels => by
    rintro s vars rfl
    have hone : ∀ why : Refusal, Tracks s (refuse why) (Exec.failWith why.message) :=
      fun why => tracks_ofExec _
    refine tracks_get ?_
    rcases Nat.lt_or_ge s.now.length maxDepth with hroom | hfull
    · have hdepth : maxDepth - s.now.length = maxDepth - (s.now.length + 1) + 1 := by omega
      rw [hdepth, runScript_succ]
      dsimp only
      split
      · exact hone (.noBuildScript _)
      split
      · exact hone (.cycle _)
      rename_i hcycle
      rw [if_neg (Nat.not_le.2 hroom)]
      cases ctx.files.readLossy (ctx.locate vars.source) with
      | error cause => exact hone (.unreadable _ cause)
      | ok content =>
        -- The two refusals above are what keeps the longer stack fit.
        have hnext : Fits (ctx.files.identity (ctx.locate vars.source) :: s.now) :=
          ⟨List.nodup_cons.2 ⟨hcycle, hfits.1⟩, hroom⟩
        have hinner := tracks_enter levels _ hnext (by rw [List.length_cons]; omega)
        exact (tracks_runLines hinner (Text.lines content) {} _ rfl).within hnext
    · rw [Nat.sub_eq_zero_of_le hfull, runScript_zero]
      dsimp only
      split
      · exact hone (.noBuildScript _)
      split
      · exact hone (.cycle _)
      · exact hone (.tooDeep _)

theorem tracks_build {levels : Nat} (hlevels : maxDepth < levels) :
    Tracks {} (build ctx levels vars) (Build.run ctx vars) := by
  have hrun : Build.run ctx vars = Audit.writeIfDue ctx "runcreate" vars >>= fun _ =>
      runScript ctx maxDepth [] vars >>= fun outcome =>
        liftM (Run.emit (summary outcome)) >>= fun _ => pure outcome := by
    rw [run_eq, ← runScript_eq]
  rw [hrun]
  refine (tracks_ofExec _).bind fun _ s' h => ?_
  have henter : Tracks s' (enter ctx levels vars) (runScript ctx maxDepth [] vars) :=
    tracks_enter levels [] ⟨List.nodup_nil, Nat.zero_le _⟩ hlevels s' vars h
  exact henter.bind fun outcome _ _ => (tracks_ofExec _).bind fun _ _ _ => tracks_pure _

/-- A script that is running already, or that would be one level too deep, is not entered. -/
theorem plays_enter_refused {levels : Nat} {events : List Event} {result : Except Stop Outcome}
    {s' : Stacks} (hfile : ctx.files.isFile (ctx.locate vars.source) = true)
    (hrefused : ctx.files.identity (ctx.locate vars.source) ∈ s.now ∨ maxDepth ≤ s.now.length)
    (h : (enter ctx (levels + 1) vars).Plays s events result s') :
    result = .ok .failure ∧ Quiet events ∧ Reported events ∧ s' = s := by
  have hone : ∀ why : Refusal, (refuse why).Plays s events result s' →
      result = .ok .failure ∧ Quiet events ∧ Reported events ∧ s' = s := by
    intro why hwhy
    obtain ⟨rfl, r, hplays, rfl⟩ := plays_ofExec.1 hwhy
    obtain ⟨rfl, hquiet, hreported⟩ := Exec.plays_failWith hplays
    exact ⟨rfl, hquiet, hreported, rfl⟩
  have hstart := plays_get_bind.1 h
  dsimp only at hstart
  rw [if_neg (by simp [hfile])] at hstart
  split at hstart
  · exact hone _ hstart
  · rename_i hcycle
    rw [if_pos (hrefused.resolve_left hcycle)] at hstart
    exact hone _ hstart

/-- Any other script is put on the stack, whatever stacks there have been, and all its lines are
run. -/
theorem plays_enter_running {levels : Nat} {events : List Event} {result : Except Stop Outcome}
    {s' : Stacks} {content : Text} {identity : Text} (hfits : Fits s.now)
    (hlevels : maxDepth < levels + 1 + s.now.length)
    (hsource : ctx.files.readLossy (ctx.locate vars.source) = .ok content)
    (hidentity : ctx.files.identity (ctx.locate vars.source) = identity)
    (hcycle : identity ∉ s.now) (hroom : s.now.length < maxDepth)
    (h : (enter ctx (levels + 1) vars).Plays s events result s') :
    (∃ mid, Restored (s.push identity) mid ∧ s' = mid.pop) ∧ ∃ r, result = ended r ∧
      (Build.runLines ctx vars (runScript ctx (31 - s.now.length) (identity :: s.now))
        (Text.lines content) {}).Plays events r := by
  have hstart := plays_get_bind.1 h
  dsimp only at hstart
  rw [if_neg (by simp [FileTree.isFile_of_readLossy hsource]), hidentity, if_neg hcycle,
    if_neg (Nat.not_le.2 hroom), hsource] at hstart
  obtain ⟨mid, hlines, rfl⟩ := plays_within.1 hstart
  have hnext : Fits (identity :: s.now) := ⟨List.nodup_cons.2 ⟨hcycle, hfits.1⟩, hroom⟩
  have hleft : 31 - s.now.length = maxDepth - (identity :: s.now).length := by
    rw [maxDepth, List.length_cons]
    omega
  rw [hleft]
  have henough : maxDepth < levels + (identity :: s.now).length := by
    rw [List.length_cons]
    omega
  obtain ⟨hplays, hback⟩ :=
    (tracks_runLines (tracks_enter levels _ hnext henough) (Text.lines content) {} _ rfl).sound hlines
  exact ⟨⟨mid, hback, rfl⟩, hplays⟩

theorem Restored.mem_of_pop {identity : Text} {mid : Stacks} {between : List (List Text)}
    (h : Restored (s.push identity) mid) (hpast : mid.pop.past = between ++ s.past) :
    (identity :: s.now) ∈ between := by
  obtain ⟨-, more, hmore, -⟩ := h
  have hbetween : between = mid.now.tail :: more ++ [identity :: s.now] := by
    refine List.append_cancel_right (hpast.symm.trans ?_)
    rw [Stacks.pop, Stacks.become, hmore]
    simp [Stacks.push, Stacks.become]
  simp [hbetween]

/-- A build that keeps its stack and may go deeper than is allowed never gives up and goes as a
build does; at every moment the stack fits, and it is empty in the end. A script in it, with whatever
is on the stack, leaves the stack as it found it, with a result or with an error. It is one failed
unit and nothing else when it is running already or would be the thirty-third level, and otherwise
it is put on the stack and all its lines are run, even if it has been on the stack before. -/
theorem stack_discipline (ctx : Context) :
    (∀ vars levels, maxDepth < levels →
      (∀ events result s', (build ctx levels vars).Plays {} events result s' →
        (∃ r, result = ended r ∧ (Build.run ctx vars).Plays events r) ∧
          s'.now = [] ∧ ∀ stack ∈ s'.past, stack.Nodup ∧ stack.length ≤ 32) ∧
      ∀ events r, (Build.run ctx vars).Plays events r →
        ∃ s', (build ctx levels vars).Plays {} events (ended r) s') ∧
    ∀ vars levels s, Fits s.now → maxDepth < levels + s.now.length →
      ∀ events result s', (enter ctx levels vars).Plays s events result s' →
        let path := ctx.locate vars.source
        let identity := ctx.files.identity path
        (∃ r, result = ended r) ∧ s'.now = s.now ∧ ∃ between, s'.past = between ++ s.past ∧
          (∀ stack ∈ between, stack.Nodup ∧ stack.length ≤ 32) ∧
          (ctx.files.isFile path = true → identity ∈ s.now ∨ s.now.length = 32 →
            result = .ok { executed := 1, failed := 1 } ∧ Quiet events ∧ Reported events ∧
              between = []) ∧
          ∀ content, ctx.files.readLossy path = .ok content → identity ∉ s.now →
            s.now.length < 32 → (identity :: s.now) ∈ between ∧ ∃ r, result = ended r ∧
              (Build.runLines ctx vars (runScript ctx (31 - s.now.length) (identity :: s.now))
                (Text.lines content) {}).Plays events r := by
  constructor
  · intro vars levels hlevels
    have htracks : Tracks {} (build ctx levels vars) (Build.run ctx vars) := tracks_build hlevels
    refine ⟨fun events result s' h => ?_, fun events r => htracks.complete⟩
    obtain ⟨hended, hnow, between, hpast, hbetween⟩ := htracks.sound h
    refine ⟨hended, hnow, fun stack hstack => hbetween stack ?_⟩
    rw [hpast, List.append_nil] at hstack
    exact hstack
  · intro vars levels s hfits hlevels events result s' h path identity
    obtain ⟨⟨r, hended, hr⟩, hnow, between, hpast, hbetween⟩ :=
      (tracks_enter levels s.now hfits hlevels s vars rfl).sound h
    obtain ⟨fewer, rfl⟩ : ∃ fewer, levels = fewer + 1 := by
      refine Nat.exists_eq_succ_of_ne_zero ?_
      rintro rfl
      exact absurd hfits.2 (by omega)
    refine ⟨⟨r, hended⟩, hnow, between, hpast, hbetween, fun hfile hrefused => ?_,
      fun content hsource hcycle hroom => ?_⟩
    · obtain ⟨rfl, hquiet, hreported, rfl⟩ :=
        plays_enter_refused hfile (hrefused.imp_right fun h => Nat.le_of_eq h.symm) h
      exact ⟨rfl, hquiet, hreported, by simpa using hpast⟩
    · obtain ⟨⟨mid, hback, rfl⟩, hplays⟩ :=
        plays_enter_running hfits hlevels hsource rfl hcycle hroom h
      exact ⟨hback.mem_of_pop hpast, hplays⟩

open Rehearsal

/-- A script that includes another one twice and then itself. -/
def circular : Context :=
  let env : Environment :=
    { name := "dev", host := "dbhost", port := none, user := "sa", password := "secret",
      platform := .mssql, company := "101", language := "1", root := "/sql", rawMode := false,
      named := true }
  { env
    options := { env, maxAge := 0 }
    files := { entries := [
      (["outer"], .file (Utf8.encode
        "runcreate /inner\nruncreate /./inner\nruncreate /outer\n") 0),
      (["inner"], .file (Utf8.encode "runsql /a.sql\n") 0),
      (["a.sql"], .file (Utf8.encode "insert 1\ngo\n") 0)] } }

def fromOuter : RunVariables := { source := "/outer" }

/-- The inner script is run both times, and the outer one is not run in itself. -/
theorem stack_discipline_circular :
    let outer : List Text := ["/outer"]
    let inner : List Text := ["/inner", "/outer"]
    let whole := (((build circular 33 fromOuter).run.run {}).exec MemoryServer.host {}).1
    let again := (((enter circular 32 fromOuter).run.run ⟨outer, []⟩).exec MemoryServer.host {}).1
    maxDepth < 33 ∧ whole.2.now = [] ∧ (∀ stack ∈ whole.2.past, stack.Nodup ∧ stack.length ≤ 32) ∧
      whole.2.past = [[], outer, inner, outer, inner, outer] ∧
      whole.1.toOption = some { executed := 3, failed := 1 } ∧
      Fits outer ∧ maxDepth < 32 + outer.length ∧
      again.1 = .ok { executed := 1, failed := 1 } ∧ again.2.now = outer := by
  have hfits : Fits [("/outer" : Text)] := ⟨by decide, by decide⟩
  obtain ⟨-, hnow, hpast⟩ := ((stack_discipline circular).1 fromOuter 33 (by decide)).1 _ _ _
    (plays_exec MemoryServer.host _ _ {})
  obtain ⟨-, hstill, _, -, -, hrefused, -⟩ := (stack_discipline circular).2 fromOuter 32 _ hfits
    (by decide) _ _ _ (plays_exec MemoryServer.host _ ⟨["/outer"], []⟩ {})
  have hone := (hrefused (by decide +kernel) (.inl (by decide +kernel))).1
  exact ⟨by decide, hnow, hpast, by decide +kernel, by decide +kernel, hfits, by decide, hone,
    hstill⟩

end Stacked

end Build

end SqlBuild
