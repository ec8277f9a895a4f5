import Mathlib.Data.List.Forall2
import SqlBuild.Proofs.FileTrees
import SqlBuild.Proofs.SessionPlays
import SqlBuild.Rehearsal.MemoryServer
import SqlBuild.Run.Script

/-!
# What a script sends is what its preview shows

A script runs as a row of iterations, one for each value of its range (`plays_runText`). In preview
an iteration writes the composed script; otherwise it holds one session and sends the batches of the
composed script there, whatever comes back for them. So two plays of one script, one of them in
preview, can be laid side by side (`sends_preview`), as long as the run is not cancelled and the
server lets it connect.
-/

namespace SqlBuild

/-- The run has been cancelled, or a connection is refused. -/
def Event.hinders : Event → Bool
  | ⟨.poll, true⟩ => true
  | ⟨.connect _, .error _⟩ => true
  | _ => false

def Unhindered (events : List Event) : Prop := ∀ e ∈ events, e.hinders = false

instance (events : List Event) : Decidable (Unhindered events) :=
  inferInstanceAs (Decidable (∀ e ∈ events, e.hinders = false))

theorem unhindered_append {before after : List Event} :
    Unhindered (before ++ after) ↔ Unhindered before ∧ Unhindered after :=
  List.forall_mem_append

theorem unhindered_cons {e : Event} {events : List Event} :
    Unhindered (e :: events) ↔ e.hinders = false ∧ Unhindered events :=
  List.forall_mem_cons

def Event.printed? : Event → Option Text
  | ⟨.print text, _⟩ => some text
  | _ => none

/-- The texts written to the output. -/
def printed (events : List Event) : List Text := events.filterMap Event.printed?

theorem printed_append (before after : List Event) :
    printed (before ++ after) = printed before ++ printed after :=
  List.filterMap_append

theorem OnlyWarns.printed_eq {events : List Event} (h : OnlyWarns events) :
    printed events = [] := by
  refine List.filterMap_eq_nil_iff.2 ?_
  rintro ⟨action, reply⟩ he
  obtain ⟨text, rfl⟩ := h _ he
  rfl

/-- The sessions opened, each with its database and what was sent before it was closed. -/
def sessions : List Event → List (Option Text × List (Text × BatchResult))
  | [] => []
  | ⟨.connect database, _⟩ :: rest =>
    (database, sent (rest.takeWhile (·.action ≠ .disconnect))) :: sessions rest
  | _ :: rest => sessions rest

theorem sessions_append : ∀ {events : List Event} (more : List Event),
    (∀ e ∈ events, ∀ database, e.action ≠ .connect database) →
      sessions (events ++ more) = sessions more
  | [], _, _ => rfl
  | ⟨action, reply⟩ :: events, more, h => by
    have hfirst := h _ List.mem_cons_self
    have ih := sessions_append more fun e he => h e (List.mem_cons_of_mem _ he)
    cases action with
    | connect database => exact absurd rfl (hfirst database)
    | _ => exact ih

/-- The events hold these sessions, close them, and send nothing outside of them. -/
structure Held (events : List Event)
    (held : List (Option Text × List (Text × BatchResult))) : Prop where
  opened : ∀ more, sessions (events ++ more) = held ++ sessions more
  inside : sent events = held.flatMap Prod.snd

namespace Held

variable {held held' : List (Option Text × List (Text × BatchResult))}

theorem nil : Held [] [] := ⟨fun _ => rfl, rfl⟩

theorem append {before after : List Event} (h : Held before held) (h' : Held after held') :
    Held (before ++ after) (held ++ held') where
  opened more := by
    rw [List.append_assoc, h.opened, h'.opened, List.append_assoc]
  inside := by
    rw [sent_append, h.inside, h'.inside, List.flatMap_append]

theorem sessions_eq {events : List Event} (h : Held events held) : sessions events = held := by
  have hall := h.opened []
  rwa [List.append_nil, sessions, List.append_nil] at hall

/-- A look at whether the run has been cancelled is no session. -/
theorem poll_cons {events : List Event} (h : Held events held) (reply : Bool) :
    Held (⟨.poll, reply⟩ :: events) held where
  opened more := h.opened more
  inside := h.inside

theorem session {during rest : List Event} {database : Option Text}
    {reply : (Action.connect database).Reply} {close : Action.disconnect.Reply}
    (hduring : ∀ e ∈ during, (∀ database, e.action ≠ .connect database) ∧ e.action ≠ .disconnect)
    (hrest : OnlyWarns rest) :
    Held (⟨.connect database, reply⟩ :: (during ++ ⟨.disconnect, close⟩ :: rest))
      [(database, sent during)] where
  opened more := by
    have hskip : ∀ e ∈ during ++ ⟨.disconnect, close⟩ :: rest,
        ∀ database, e.action ≠ .connect database := by
      intro e he
      rcases List.mem_append.1 he with he | he
      · exact (hduring e he).1
      rcases List.mem_cons.1 he with rfl | he
      · simp
      · obtain ⟨text, ht⟩ := hrest e he
        simp [ht]
    -- The session is cut off at its own closing, so what follows does not count.
    have htake : (during ++ ⟨.disconnect, close⟩ :: rest ++ more).takeWhile
        (·.action ≠ .disconnect) = during := by
      rw [List.append_assoc, List.takeWhile_append_of_pos]
      · simp
      · intro e he
        simpa using (hduring e he).2
    have hfirst : ∀ tail, sessions (⟨.connect database, reply⟩ :: tail) =
        (database, sent (tail.takeWhile (·.action ≠ .disconnect))) :: sessions tail :=
      fun _ => rfl
    rw [List.cons_append, hfirst, htake, sessions_append more hskip]
    rfl
  inside := by
    rw [sent_cons, sent_append, sent_cons, hrest.quiet.sent_eq]
    simp [Event.sent?]

end Held

namespace Script

section

variable {ctx : Context} {vars : RunVariables} {content : Text} {audit : Option Text}
variable {events : List Event}

theorem inSession (action : Action) (h : action.toUser = true) :
    (∀ database, action ≠ .connect database) ∧ action ≠ .disconnect := by
  cases action with
  | print _ | warn _ => simp
  | _ => cases h

theorem only_showBatch (echo audited : Bool) (index : Nat) (batch : Text) (result : BatchResult) :
    (showBatch echo audited index batch result).Only (·.toUser = true) := by
  have hwhen : ∀ (when : Bool) (text : Text),
      (if when then Run.emit text else pure ()).Only (·.toUser = true) := by
    intro when text
    cases when
    · exact Run.only_done ()
    · exact Run.only_emit text
  cases result with
  | ok text =>
    cases echo
    · exact (Run.only_emit text).bind fun _ => hwhen _ _
    · exact (Run.only_emit _).bind fun _ => (Run.only_emit text).bind fun _ => hwhen _ _
  | error e =>
    cases echo
    · exact (Run.only_write _).bind fun _ => hwhen _ _
    · exact (Run.only_emit _).bind fun _ => (Run.only_write _).bind fun _ => hwhen _ _

/-- The events hold one session, to which the batches of a script are sent in their order; `ok`
tells whether none was rejected. -/
def Sends (database : Option Text) (sql : Text) (events : List Event) (ok : Bool) : Prop :=
  ∃ batches : List (Text × BatchResult), Held events [(database, batches)] ∧
    batches.map Prod.fst = Batch.sendable (Batch.split sql) ∧ ok = batches.all fun b => b.2.isOk

/-- Whatever the server answers, the whole script is sent. -/
theorem plays_execute {sql : Text} {database : Option Text} {echo audited : Bool}
    {result : Except ExecError Bool} (h : (execute sql database echo audited).Plays events result)
    (hfree : Unhindered events) : ∃ ok, result = .ok ok ∧ Sends database sql events ok := by
  rcases Exec.plays_withSession h with ⟨e, rfl, -⟩ | ⟨during, close, rest, rfl, hd, hwarns⟩
  · exact absurd (hfree _ List.mem_cons_self) (by simp [Event.hinders])
  · have hduring : Unhindered during :=
      (unhindered_append.1 (unhindered_cons.1 hfree).2).1
    have honly := (Batch.only_runFrom
      (fun index batch result => (only_showBatch echo audited index batch result).mono inSession)
      (by simp) (Batch.split sql) 0 (by simp)).bind fun results =>
        Exec.only_pure (results.all BatchResult.isOk)
    have hheld : Held (⟨.connect database, .ok ()⟩ :: (during ++ ⟨.disconnect, close⟩ :: rest))
        [(database, sent during)] := Held.session (honly _ _ hd) hwarns
    have hquiet : ∀ index batch result events u,
        (showBatch echo audited index batch result).Plays events u → Quiet events :=
      fun index batch result events u hp => only_showBatch echo audited index batch result _ _ hp
    rcases Exec.plays_bind.1 hd with ⟨results, before, after, rfl, hr, ha⟩ | ⟨e, hr, rfl⟩
    · obtain ⟨rfl, rfl⟩ := ha
      rw [List.append_nil] at hheld ⊢
      obtain ⟨_, heq, htexts, hresults⟩ | ⟨hcon, -⟩ := Batch.plays_runFrom hquiet hr
      · obtain rfl := Except.ok.inj heq
        refine ⟨_, rfl, sent before, hheld, htexts, ?_⟩
        rw [← hresults, List.all_map]
        rfl
      · cases hcon
    · have hcancelled := hduring _ (Batch.cancelled_of_runFrom hr)
      cases hcancelled

/-- An execution never fails, so there is nothing to fold. -/
theorem plays_executeFolded {sql : Text} {database : Option Text} {echo audited : Bool}
    {result : Except ExecError Outcome}
    (h : (Exec.orFold do return .unit (← execute sql database echo audited)).Plays events result)
    (hfree : Unhindered events) :
    ∃ ok, result = .ok (.unit ok) ∧ Sends database sql events ok := by
  have hwork := Exec.plays_orFold h fun before after e hsplit hfail => by
    obtain ⟨r, hr, he⟩ := Exec.plays_map.1 hfail
    have hbefore := (unhindered_append.1 (hsplit ▸ hfree)).1
    obtain ⟨_, rfl, -⟩ := plays_execute hr hbefore
    cases he
  obtain ⟨r, hr, rfl⟩ := Exec.plays_map.1 hwork
  obtain ⟨ok, rfl, hsends⟩ := plays_execute hr hfree
  exact ⟨ok, rfl, hsends⟩

/-- What is composed ends with a line feed, so it is written as it is. -/
theorem withNewline_compose (ctx : Context) (content : Text) (audit : Option Text)
    (sequence : Option Int) :
    compose ctx content audit sequence ≠ [] ∧
      Run.withNewline (compose ctx content audit sequence) =
        compose ctx content audit sequence := by
  have hclose : ∀ lines : List Text, ∃ t, close (Text.unlines lines) = t ++ ['\n'] := by
    intro lines
    unfold close
    split
    · rename_i hlast
      rcases List.eq_nil_or_concat lines with rfl | ⟨before, last, rfl⟩
      · exact absurd hlast (by decide)
      · refine ⟨Text.unlines before ++ last, ?_⟩
        simp [Text.unlines]
    · refine ⟨Text.unlines lines ++ ['g', 'o'], ?_⟩
      simp
  obtain ⟨t, ht⟩ := hclose _
  have hends : Text.endsWith (t ++ ['\n']) "\n" = true :=
    List.isSuffixOf_iff_suffix.2 ⟨t, rfl⟩
  unfold compose
  rw [ht]
  exact ⟨by simp, if_pos hends⟩

/-- In preview an iteration writes its script and does nothing to the server. -/
theorem plays_preview {sequence : Option Int} {result : Except ExecError Bool}
    (hpreview : vars.preview = true)
    (h : (iterate ctx vars content audit sequence).Plays events result)
    (hfree : Unhindered events) :
    printed events = [compose ctx content audit sequence] ∧ result = .ok true := by
  obtain ⟨rest, rfl, hrest⟩ | ⟨rfl, -⟩ := Exec.plays_checkCancelled_bind h
  · obtain ⟨hne, hline⟩ := withNewline_compose ctx content audit sequence
    dsimp only at hrest
    rw [if_pos hpreview] at hrest
    obtain ⟨_, before, after, rfl, hemit, hdone⟩ := Exec.plays_lift_bind hrest
    obtain ⟨rfl, rfl⟩ := hdone
    rw [Run.emit, if_neg hne, hline] at hemit
    obtain ⟨reply, warns, rfl, hwarns⟩ := Run.plays_write hemit
    have hprinted : ∀ sql reply, printed (⟨.poll, false⟩ :: (⟨.print sql, reply⟩ :: warns ++ [])) =
        sql :: printed (warns ++ []) := fun _ _ => rfl
    rw [hprinted, List.append_nil, hwarns.printed_eq]
    exact ⟨rfl, rfl⟩
  · exact absurd (hfree _ List.mem_cons_self) (by simp [Event.hinders])

/-- Otherwise it sends its script. -/
theorem plays_iterate {sequence : Option Int} {result : Except ExecError Bool}
    (hpreview : vars.preview = false)
    (h : (iterate ctx vars content audit sequence).Plays events result)
    (hfree : Unhindered events) : ∃ ok, result = .ok ok ∧
      Sends vars.database (compose ctx content audit sequence) events ok := by
  obtain ⟨rest, rfl, hrest⟩ | ⟨rfl, -⟩ := Exec.plays_checkCancelled_bind h
  · have hfree := (unhindered_cons.1 hfree).2
    dsimp only at hrest
    rw [if_neg (by rw [hpreview]; simp)] at hrest
    rcases Exec.plays_bind.1 hrest with ⟨outcome, before, after, rfl, ho, hdone⟩ | ⟨e, ho, rfl⟩
    · obtain ⟨rfl, rfl⟩ := hdone
      have hbefore := (unhindered_append.1 hfree).1
      obtain ⟨ok, heq, batches, hheld, htexts, hok⟩ := plays_executeFolded ho hbefore
      obtain rfl := Except.ok.inj heq
      rw [List.append_nil, Outcome.isSuccess_unit]
      exact ⟨ok, rfl, batches, hheld.poll_cons false, htexts, hok⟩
    · obtain ⟨_, hcon, -⟩ := plays_executeFolded ho hfree
      cases hcon
  · exact absurd (hfree _ List.mem_cons_self) (by simp [Event.hinders])

/-- An iteration comes to its end. -/
theorem ok_of_iterate {sequence : Option Int} {result : Except ExecError Bool}
    (h : (iterate ctx vars content audit sequence).Plays events result)
    (hfree : Unhindered events) :
    ∃ ok, result = .ok ok := by
  cases hpreview : vars.preview with
  | true => exact ⟨true, (plays_preview hpreview h hfree).2⟩
  | false =>
    obtain ⟨ok, hok, -⟩ := plays_iterate hpreview h hfree
    exact ⟨ok, hok⟩

end

/-- The values a script runs for. -/
def values : Option SequenceRange → List (Option Int)
  | none => [none]
  | some range =>
    (List.range (range.last - range.first + 1).toNat).map fun k : Nat => some (range.first + k)

/-- The values left after the first one start one further on. -/
theorem valuesFrom_succ (value : Int) (count : Nat) :
    ((List.range (count + 1)).map fun k : Nat => some (value + k)) =
      some value :: (List.range count).map fun k : Nat => some (value + 1 + k) := by
  rw [List.range_succ_eq_map, List.map_cons, List.map_map]
  congr 1
  · simp
  · refine List.map_congr_left fun k _ => ?_
    simp only [Function.comp, Option.some.injEq]
    omega

/-- The events of the iterations for some values, and whether each went well. -/
def Iterations (work : Option Int → Exec Bool) (values : List (Option Int))
    (parts : List (List Event × Bool)) : Prop :=
  List.Forall₂ (fun n part => (work n).Plays part.1 (.ok part.2) ∧ Unhindered part.1) values parts

theorem plays_forValues (work : Option Int → Exec Bool)
    (hwork : ∀ n events result, (work n).Plays events result → Unhindered events →
      ∃ ok, result = .ok ok) :
    ∀ {count : Nat} {value : Int} {ok : Bool} {events : List Event}
      {result : Except ExecError Bool},
      (forValues (fun n => work (some n)) count value ok).Plays events result → Unhindered events →
        ∃ parts, events = parts.flatMap Prod.fst ∧ result = .ok (ok && parts.all Prod.snd) ∧
          Iterations work ((List.range count).map fun k : Nat => some (value + k)) parts
  | 0, value, ok, events, result, h, _ => by
    obtain ⟨rfl, rfl⟩ := h
    exact ⟨[], rfl, by simp, .nil⟩
  | count + 1, value, ok, events, result, h, hfree => by
    rw [valuesFrom_succ]
    rcases Exec.plays_bind.1 h with ⟨first, before, after, rfl, hfirst, hrest⟩ | ⟨e, hfirst, rfl⟩
    · obtain ⟨hbefore, hafter⟩ := unhindered_append.1 hfree
      obtain ⟨parts, rfl, rfl, hparts⟩ := plays_forValues work hwork hrest hafter
      refine ⟨(before, first) :: parts, rfl, ?_, .cons ⟨hfirst, hbefore⟩ hparts⟩
      rw [List.all_cons, Bool.and_assoc]
    · obtain ⟨_, hcon⟩ := hwork _ _ _ hfirst hfree
      cases hcon

section

variable {ctx : Context} {vars : RunVariables} {content : Text} {audit : Option Text}
variable {events : List Event} {parts : List (List Event × Bool)} {ns : List (Option Int)}

/-- A script runs once for each of its values, in their order. -/
theorem plays_runText {result : Except ExecError Outcome}
    (h : (runText ctx vars audit content).Plays events result) (hfree : Unhindered events) :
    ∃ parts, events = parts.flatMap Prod.fst ∧ result = .ok (.unit (parts.all Prod.snd)) ∧
      Iterations (iterate ctx vars content audit) (values vars.sequence) parts := by
  unfold runText at h
  cases hrange : vars.sequence with
  | none =>
    rw [hrange] at h
    obtain ⟨r, hr, rfl⟩ := Exec.plays_map.1 h
    obtain ⟨ok, rfl⟩ := ok_of_iterate hr hfree
    refine ⟨[(events, ok)], by simp, ?_, .cons ⟨hr, hfree⟩ .nil⟩
    rw [List.all_cons, List.all_nil, Bool.and_true]
    rfl
  | some range =>
    rw [hrange] at h
    obtain ⟨r, hr, rfl⟩ := Exec.plays_map.1 h
    obtain ⟨parts, rfl, rfl, hparts⟩ := plays_forValues
      (iterate ctx vars content audit) (fun _ _ _ => ok_of_iterate) hr hfree
    refine ⟨parts, rfl, ?_, hparts⟩
    rw [Bool.true_and]
    rfl

theorem printed_iterations (hpreview : vars.preview = true)
    (h : Iterations (iterate ctx vars content audit) ns parts) :
    printed (parts.flatMap Prod.fst) = ns.map (compose ctx content audit) := by
  induction h with
  | nil => rfl
  | cons hpart _ ih =>
    obtain ⟨hprinted, -⟩ := plays_preview hpreview hpart.1 hpart.2
    rw [List.flatMap_cons, printed_append, hprinted, ih]
    rfl

theorem held_iterations (hpreview : vars.preview = false)
    (h : Iterations (iterate ctx vars content audit) ns parts) :
    ∃ held, Held (parts.flatMap Prod.fst) held ∧
      (held.map fun s => (s.1, s.2.map Prod.fst)) = ns.map (fun n =>
        (vars.database, Batch.sendable (Batch.split (compose ctx content audit n)))) ∧
      parts.all Prod.snd = held.all fun s => s.2.all fun b => b.2.isOk := by
  induction h with
  | nil => exact ⟨[], .nil, rfl, rfl⟩
  | cons hpart _ ih =>
    obtain ⟨ok, hresult, batches, hheld, htexts, hok⟩ := plays_iterate hpreview hpart.1 hpart.2
    obtain ⟨held, hrest, hmap, hall⟩ := ih
    refine ⟨(vars.database, batches) :: held, hheld.append hrest, ?_, ?_⟩
    · rw [List.map_cons, List.map_cons, htexts, hmap]
    · rw [List.all_cons, List.all_cons, ← hall, ← hok, Except.ok.inj hresult]

/-- A source that can be read runs, unless its range ends before it starts. -/
theorem run_eq (hsource : ctx.files.readLossy (ctx.locate vars.source) = .ok content)
    (hrange : ∀ range, vars.sequence = some range → range.first ≤ range.last) :
    run ctx vars = runText ctx vars (audit? ctx "runsql" vars) content := by
  have hrun : runSource ctx vars = runText ctx vars (audit? ctx "runsql" vars) content := by
    unfold runSource
    dsimp only
    rw [if_pos (FileTree.isFile_of_readLossy hsource), hsource]
  unfold run
  cases hsequence : vars.sequence with
  | none => exact hrun
  | some range =>
    dsimp only
    rw [if_pos (hrange range hsequence)]
    exact hrun

/-- Whatever the server answers to the batches of a script, it opens one session for each value and
sends there the batches of the text that the preview shows for this value. -/
theorem sends_preview (ctx : Context) (vars : RunVariables) {content : Text}
    {events shown : List Event}
    (hsource : ctx.files.readLossy (ctx.locate vars.source) = .ok content)
    (hrange : ∀ range, vars.sequence = some range → range.first ≤ range.last)
    (hreal : vars.preview = false) {result preview : Except ExecError Outcome}
    (h : (run ctx vars).Plays events result) (hfree : Unhindered events)
    (hshown : (run ctx { vars with preview := true }).Plays shown preview)
    (hshownFree : Unhindered shown) :
    printed shown =
        (values vars.sequence).map (compose ctx content (audit? ctx "runsql" vars)) ∧
      ((sessions events).map fun s => (s.1, s.2.map Prod.fst)) =
        (printed shown).map (fun text => (vars.database, Batch.sendable (Batch.split text))) ∧
      sent events = (sessions events).flatMap Prod.snd ∧
      ∃ outcome, result = .ok outcome ∧
        (outcome.isSuccess = true ↔ ∀ b ∈ sent events, b.2.isOk = true) := by
  have hpreview : run ctx { vars with preview := true } =
      runText ctx { vars with preview := true } (audit? ctx "runsql" vars) content :=
    run_eq hsource hrange
  rw [run_eq hsource hrange] at h
  rw [hpreview] at hshown
  obtain ⟨parts, rfl, rfl, hparts⟩ := plays_runText h hfree
  obtain ⟨shownParts, rfl, -, hshownParts⟩ := plays_runText hshown hshownFree
  have hprinted : printed (shownParts.flatMap Prod.fst) =
      (values vars.sequence).map (compose ctx content (audit? ctx "runsql" vars)) :=
    printed_iterations rfl hshownParts
  obtain ⟨held, hheld, hmap, hall⟩ := held_iterations hreal hparts
  refine ⟨hprinted, ?_, ?_, .unit (parts.all Prod.snd), rfl, ?_⟩
  · rw [hheld.sessions_eq, hmap, hprinted, List.map_map]
    rfl
  · rw [hheld.sessions_eq, hheld.inside]
  · rw [Outcome.isSuccess_unit, hall, hheld.inside]
    simp only [List.all_eq_true, List.mem_flatMap]
    constructor
    · rintro hok b ⟨s, hs, hb⟩
      exact hok s hs b hb
    · intro hok s hs b hb
      exact hok b ⟨s, hs, hb⟩

end

open Rehearsal

/-- A script of three batches, the first for the value it runs for, and a line to leave. -/
def threeBatches : Context :=
  let env : Environment :=
    { name := "dev", host := "dbhost", port := none, user := "sa", password := "secret",
      platform := .mssql, company := "101", language := "1", root := "/sql", rawMode := false,
      named := true }
  { env
    options := { env, maxAge := 0, dictionary := some ⟨[("&users&", "sbnmaster..users")]⟩ }
    files := { entries := [(["a.sql"], .file (Utf8.encode
      "insert &users& values (@sequence@)\ngo\n\ngo\nmissing\nGO\nselect 1\nexit\n") 0)] } }

/-- The last two values that a range can have. -/
def lastTwo : RunVariables :=
  { source := "/a.sql", database := some "sbnmaster",
    sequence := some ⟨9223372036854775806, 9223372036854775807⟩,
    changelog := true, commandLine := "runsql /a.sql" }

def rejecting : MemoryServer := { failing := [("missing", "")] }

/-- The batches for a value. -/
def batchesFor (value : Text) : List Text :=
  ["exec &i_changelog& @program = 'RUNSQL', @command = 'runsql /a.sql', @user_name = 'sa'\n",
    "insert sbnmaster..users values (" ++ value ++ ")\n", "missing\n", "select 1\n"]

theorem sends_preview_lastTwo :
    let events := (run threeBatches lastTwo).run.trace MemoryServer.host rejecting
    let shown :=
      (run threeBatches { lastTwo with preview := true }).run.trace MemoryServer.host rejecting
    (printed shown).length = 2 ∧
      ((sessions events).map fun s => (s.1, s.2.map Prod.fst)) =
        [(some "sbnmaster".toList, batchesFor "9223372036854775806"),
          (some "sbnmaster".toList, batchesFor "9223372036854775807")] ∧
      ∃ outcome, ((run threeBatches lastTwo).run.exec MemoryServer.host rejecting).1 = .ok outcome ∧
        outcome.isSuccess = false := by
  intro events shown
  have hevents : Unhindered events := by decide +kernel
  have hshown : Unhindered shown := by decide +kernel
  have hrejected : ∃ b ∈ sent events, b.2.isOk = false := by decide +kernel
  have hplays := Run.plays_exec MemoryServer.host (run threeBatches lastTwo).run rejecting
  have hpreview := Run.plays_exec MemoryServer.host
    (run threeBatches { lastTwo with preview := true }).run rejecting
  have hrange : ∀ range, lastTwo.sequence = some range → range.first ≤ range.last := by
    rintro range ⟨⟩
    decide
  obtain ⟨content, hsource⟩ :
      ∃ content, threeBatches.files.readLossy (threeBatches.locate lastTwo.source) = .ok content :=
    exists_eq_ok (by decide +kernel)
  obtain ⟨hprinted, hsessions, -, outcome, hok, hsuccess⟩ :=
    sends_preview threeBatches lastTwo hsource hrange rfl hplays hevents hpreview hshown
  refine ⟨?_, hsessions.trans (by decide +kernel), outcome, hok, ?_⟩
  · rw [hprinted, List.length_map]
    rfl
  · obtain ⟨b, hb, hbad⟩ := hrejected
    cases hout : outcome.isSuccess with
    | false => rfl
    | true =>
      rw [hsuccess.1 hout b hb] at hbad
      cases hbad

end Script

end SqlBuild
