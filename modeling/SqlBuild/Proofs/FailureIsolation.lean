import SqlBuild.Proofs.BuildParts
import SqlBuild.Proofs.StraightLine

/-!
# Failures stay with their units

A build of scripts is straight: what it asks of the server is settled by the files and the options
(`Build.exists_straight_runSteps`), so a batch that is rejected has no influence on what is sent
after it. Its outcome counts the units with a rejected batch and those that were not started
(`Build.plays_runSteps`). Both come from the parts of the build, one after the other.
-/

namespace SqlBuild

open Exec

def isRejected (b : Text × BatchResult) : Bool := !b.2.isOk

namespace Script

variable {ctx : Context} {vars : RunVariables} {events : List Event}

theorem all_of_preview {content : Text} {audit : Option Text} {ns : List (Option Int)}
    {parts : List (List Event × Bool)} (hpreview : vars.preview = true)
    (h : Iterations (iterate ctx vars content audit) ns parts) : parts.all Prod.snd = true := by
  induction h with
  | nil => rfl
  | cons hpart _ ih =>
    rw [List.all_cons, ih, Except.ok.inj (plays_preview hpreview hpart.1 hpart.2).2]
    rfl

theorem result_runText {audit : Option Text} {content : Text} {result : Except ExecError Outcome}
    (h : (runText ctx vars audit content).Plays events result) (hfree : Unhindered events) :
    (sent events).map Prod.fst = batches ctx vars audit content ∧
      result = .ok (.unit !(sent events).any isRejected) := by
  obtain ⟨hopen, hunset⟩ := unhindered_iff.1 hfree
  have hsent : (sent events).map Prod.fst = batches ctx vars audit content := by
    rcases straight_runText audit content _ _ h hopen with ⟨_, -, -, hasked⟩ | ⟨-, hcut⟩
    · rw [map_fst_sent, hasked, filterMap_sql_items]
    · obtain ⟨_, _, hcut, -⟩ := hcut
      exact absurd hcut.readSet hunset
  refine ⟨hsent, ?_⟩
  obtain ⟨parts, rfl, rfl, hparts⟩ := plays_runText h hfree
  congr 2
  cases hpreview : vars.preview with
  | false =>
    obtain ⟨held, hheld, -, hall⟩ := held_iterations hpreview hparts
    rw [hall, hheld.inside, List.not_any_eq_all_not, List.all_flatMap]
    simp [isRejected]
  | true =>
    rw [batches, if_pos hpreview, List.map_eq_nil_iff] at hsent
    rw [hsent, all_of_preview hpreview hparts]
    rfl

end Script

namespace Build

variable {ctx : Context} {vars : RunVariables}

/-- The build scripts that a build script reaches by its build commands, and so on. -/
inductive Reached (ctx : Context) (root : Text) : Text → Prop
  | root : Reached ctx root root
  | nested {source : Text} {found : BuildLine} {inner : Text} (reached : Reached ctx root source)
      (line : found ∈ commands ctx source) (build : found.command = .runCreate)
      (named : found.source = some inner) : Reached ctx root inner

/-- A tree of build scripts without upgrades and compilers. -/
def ScriptsOnly (ctx : Context) (root : Text) : Prop :=
  ∀ source found, Reached ctx root source → found ∈ commands ctx source →
    found.command = .runSql ∨ found.command = .runCreate

/-- Whether the build scripts only run each other and source files. -/
def closed (ctx : Context) (sources : List Text) : Bool :=
  sources.all fun source => (commands ctx source).all fun found =>
    found.command == .runSql ||
      found.command == .runCreate && found.source.all fun inner => sources.contains inner

theorem ScriptsOnly.of_closed {ctx : Context} {root : Text} (sources : List Text)
    (hroot : root ∈ sources) (h : closed ctx sources = true) : ScriptsOnly ctx root := by
  simp only [closed, List.all_eq_true, Bool.or_eq_true, Bool.and_eq_true, beq_iff_eq] at h
  have hmem : ∀ source, Reached ctx root source → source ∈ sources := by
    intro source hreached
    induction hreached with
    | root => exact hroot
    | nested _ line build named ih =>
      rcases h _ ih _ line with hscript | ⟨-, hinner⟩
      · rw [build] at hscript
        cases hscript
      · rw [named] at hinner
        exact List.contains_iff_mem.1 hinner
  exact fun source found hreached hline => (h _ (hmem source hreached) _ hline).imp_right And.left

/-- A script, or something that is not started. -/
def Part.isSimple : Part → Bool
  | script .. | refused _ => true
  | _ => false

def Part.isRefused : Part → Bool
  | refused _ => true
  | _ => false

/-- What a part sends when it comes to its end, and what comes back. -/
def Part.Sends (ctx : Context) (part : Part) (share : List (Text × BatchResult)) : Prop :=
  match part with
  | script vars content => share.map Prod.fst = Script.batches ctx vars none content
  | _ => share = []

theorem isSimple_ofScript : (Part.ofScript ctx vars).isSimple = true := by
  have hsource : (Part.ofSource ctx vars).isSimple = true := by
    unfold Part.ofSource
    dsimp only
    split
    · cases ctx.files.readLossy (ctx.locate vars.source) <;> rfl
    · rfl
  unfold Part.ofScript
  split
  · split
    · exact hsource
    · rfl
  · exact hsource

theorem isSimple_of_mem_plan {root : Text} (h : ScriptsOnly ctx root) {depth : Nat}
    {stack : List Text} {vars : RunVariables} (hreached : Reached ctx root vars.source) {p : Part}
    (hp : .part p ∈ plan ctx depth stack vars) : p.isSimple = true := by
  induction depth generalizing stack vars with
  | zero =>
    obtain ⟨why, rfl⟩ | ⟨_, _, hdepth, -⟩ := mem_plan hp
    · rfl
    · cases hdepth
  | succ depth ih =>
    obtain ⟨why, rfl⟩ | ⟨_, found, hdepth, hfound, hmem⟩ := mem_plan hp
    · rfl
    obtain rfl := Nat.succ.inj hdepth
    unfold commandSteps at hmem
    rcases h _ _ hreached hfound with hcommand | hcommand <;> rw [hcommand] at hmem <;>
      cases hsource : found.source <;> rw [hsource] at hmem
    case inl.none =>
      obtain rfl := Step.part.inj (List.mem_singleton.1 hmem)
      rfl
    case inl.some source =>
      obtain ⟨database, -, heq⟩ := List.mem_map.1 hmem
      obtain rfl := Step.part.inj heq
      exact isSimple_ofScript
    case inr.none =>
      obtain rfl := Step.part.inj (List.mem_singleton.1 hmem)
      rfl
    case inr.some source => exact ih (hreached.nested hfound hcommand hsource) hmem

theorem Part.exists_straight {part : Part} (h : part.isSimple = true) :
    ∃ items, (part.run ctx).Straight items := by
  cases part with
  | script vars content => exact ⟨_, Script.straight_runText none content⟩
  | refused why =>
    exact ⟨_, (straight_tell (Run.only_write _)).bind_pure fun _ => Outcome.failure⟩
  | _ => cases h

theorem exists_straight_runSteps : ∀ {steps : List Step},
    (∀ p, .part p ∈ steps → p.isSimple = true) →
      ∃ items, ∀ total, (runSteps ctx steps total).Straight items
  | [], _ => ⟨[], fun total => straight_pure total⟩
  | step :: rest, h => by
    obtain ⟨items, hrest⟩ :=
      exists_straight_runSteps fun p hp => h p (List.mem_cons_of_mem _ hp)
    cases step with
    | poll => exact ⟨_, fun total => straight_checkCancelled.bind fun _ => hrest total⟩
    | part p =>
      obtain ⟨first, hp⟩ := Part.exists_straight (h p List.mem_cons_self)
      exact ⟨_, fun total => hp.bind fun outcome => hrest (total + outcome)⟩

theorem Part.plays_run {part : Part} (hsimple : part.isSimple = true) {events : List Event}
    {result : Except ExecError Outcome} (h : (part.run ctx).Plays events result)
    (hfree : Unhindered events) :
    part.Sends ctx (sent events) ∧ result = .ok ⟨1, (if (sent events).any isRejected then 1 else 0)
      + if part.isRefused then 1 else 0⟩ := by
  cases part with
  | script vars content =>
    obtain ⟨hsent, rfl⟩ := Script.result_runText h hfree
    refine ⟨hsent, ?_⟩
    cases (sent events).any isRejected <;> rfl
  | refused why =>
    obtain ⟨rfl, hquiet, -⟩ := Exec.plays_failWith h
    rw [hquiet.sent_eq]
    exact ⟨rfl, rfl⟩
  | _ => cases hsimple

/-- The batches sent fall into the shares of the parts, and the outcome counts the parts and their
failures. -/
theorem plays_runSteps : ∀ {steps : List Step} {total : Outcome} {events : List Event}
    {result : Except ExecError Outcome}, (∀ p, .part p ∈ steps → p.isSimple = true) →
      (runSteps ctx steps total).Plays events result → Unhindered events →
        ∃ shares, sent events = shares.flatten ∧
          List.Forall₂ (Part.Sends ctx) (steps.filterMap Step.part?) shares ∧
          result = .ok (total + ⟨(steps.filterMap Step.part?).length,
            shares.countP (·.any isRejected) +
              (steps.filterMap Step.part?).countP Part.isRefused⟩)
  | [], total, _, _, _, h, _ => by
    obtain ⟨rfl, rfl⟩ := h
    exact ⟨[], rfl, .nil, rfl⟩
  | .poll :: rest, total, events, result, hsimple, h, hfree => by
    rw [runSteps] at h
    have hothers : ∀ p, .part p ∈ rest → p.isSimple = true :=
      fun p hp => hsimple p (List.mem_cons_of_mem _ hp)
    obtain ⟨after, rfl, hrest⟩ | ⟨rfl, -⟩ := Exec.plays_checkCancelled_bind h
    · have ih := plays_runSteps hothers hrest (unhindered_cons.1 hfree).2
      exact ih
    · cases hfree _ List.mem_cons_self
  | .part p :: rest, total, events, result, hsimple, h, hfree => by
    rw [runSteps] at h
    have hp := hsimple p List.mem_cons_self
    have hothers : ∀ q, .part q ∈ rest → q.isSimple = true :=
      fun q hq => hsimple q (List.mem_cons_of_mem _ hq)
    rcases Exec.plays_bind.1 h with ⟨outcome, before, after, rfl, hb, ha⟩ | ⟨e, hb, rfl⟩
    · obtain ⟨hbefore, hafter⟩ := unhindered_append.1 hfree
      obtain ⟨hshare, heq⟩ := Part.plays_run hp hb hbefore
      obtain rfl := Except.ok.inj heq
      obtain ⟨shares, hsent, hshares, rfl⟩ := plays_runSteps hothers ha hafter
      refine ⟨sent before :: shares, by rw [sent_append, hsent, List.flatten_cons],
        .cons hshare hshares, congrArg _ ?_⟩
      rw [Outcome.add_assoc]
      congr 1
      ext
      · simp [Step.part?, Nat.add_comm]
      · simp only [Step.part?, List.filterMap_cons, List.countP_cons, Outcome.failed_add]
        omega
    · obtain ⟨-, hcon⟩ := Part.plays_run hp hb hfree
      cases hcon

def entryBatches (ctx : Context) (vars : RunVariables) : List Text :=
  if Audit.isDue ctx vars then Batch.sendable (Batch.split (Audit.script ctx "runcreate" vars))
  else []

/-- What the parts of a build sent, and the outcome that comes from it. -/
structure Tally (ctx : Context) (vars : RunVariables) (events : List Event) where
  /-- The batches of the audit entry, with their results. -/
  entry : List (Text × BatchResult)
  /-- The batches of each part, with their results. -/
  shares : List (List (Text × BatchResult))
  sent_eq : sent events = entry ++ shares.flatten
  entry_texts : entry.map Prod.fst = entryBatches ctx vars
  shares_texts : List.Forall₂ (Part.Sends ctx) (parts ctx vars) shares

/-- Every part is one unit; those with a rejected batch failed, and those that were not started. -/
def Tally.outcome {events : List Event} (tally : Tally ctx vars events) : Outcome where
  executed := (parts ctx vars).length
  failed := tally.shares.countP (·.any isRejected) + (parts ctx vars).countP Part.isRefused

theorem exists_straight_entry (ctx : Context) (vars : RunVariables) :
    ∃ items, (Audit.writeIfDue ctx "runcreate" vars).Straight items ∧
      items.filterMap Action.sql? = entryBatches ctx vars := by
  rw [Audit.writeIfDue, entryBatches]
  split
  · exact ⟨_, Audit.straight_write _ _ _, Batch.filterMap_sql_items _⟩
  · exact ⟨_, straight_pure (), rfl⟩

theorem exists_straight_run (h : ScriptsOnly ctx vars.source) :
    ∃ items, (run ctx vars).Straight items := by
  obtain ⟨first, hentry, -⟩ := exists_straight_entry ctx vars
  have hsimple : ∀ p, .part p ∈ plan ctx maxDepth [] vars → p.isSimple = true :=
    fun p hp => isSimple_of_mem_plan h .root hp
  obtain ⟨items, hsteps⟩ := exists_straight_runSteps hsimple
  have hsummary : ∀ outcome : Outcome, Straight (do
      liftM (Run.emit (summary outcome))
      return outcome) [] :=
    fun outcome => (straight_tell (Run.only_emit _)).bind_pure fun _ => outcome
  rw [run_eq]
  exact ⟨_, hentry.bind fun _ => (hsteps {}).bind hsummary⟩

theorem exists_tally (h : ScriptsOnly ctx vars.source) {events : List Event} {outcome : Outcome}
    (hp : (run ctx vars).Plays events (.ok outcome)) (hfree : Unhindered events) :
    ∃ tally : Tally ctx vars events, outcome = tally.outcome := by
  rw [run_eq] at hp
  rcases Exec.plays_bind.1 hp with ⟨_, first, after, rfl, hentry, hrest⟩ | ⟨_, -, hcon⟩
  · rcases Exec.plays_bind.1 hrest with ⟨o, during, last, rfl, hsteps, htell⟩ | ⟨_, -, hcon⟩
    · obtain ⟨_, shown, rest, rfl, hemit, hend⟩ := Exec.plays_lift_bind htell
      obtain ⟨rfl, heq⟩ := hend
      obtain rfl := Except.ok.inj heq
      obtain ⟨hfirst, hlater⟩ := unhindered_append.1 hfree
      have hquiet : Quiet shown := Run.only_emit _ _ _ hemit
      obtain ⟨shares, hsent, hshares, hresult⟩ := plays_runSteps
        (fun p hp => isSimple_of_mem_plan h .root hp) hsteps (unhindered_append.1 hlater).1
      obtain ⟨items, hstraight, hitems⟩ := exists_straight_entry ctx vars
      obtain ⟨hopen, hunset⟩ := unhindered_iff.1 hfirst
      have hentrySent : (sent first).map Prod.fst = entryBatches ctx vars := by
        rcases hstraight _ _ hentry hopen with ⟨_, -, -, hasked⟩ | ⟨hcon, -⟩
        · rw [map_fst_sent, hasked, hitems]
        · cases hcon
      refine ⟨⟨sent first, shares, ?_, hentrySent, hshares⟩, ?_⟩
      · rw [List.append_nil, sent_append, sent_append, hsent, hquiet.sent_eq, List.append_nil]
      · rw [Except.ok.inj hresult, Outcome.none_add]
        rfl
    · cases hcon
  · cases hcon

/-- Two servers that open all sessions, and otherwise answer as they like, are sent the same batches
in the same databases by a build of scripts, as long as the token reads alike. Either both runs are
cancelled, or each comes to its end, and its outcome has failed as many units as have a batch that
was rejected or were not started. -/
theorem failure_isolation (ctx : Context) (vars : RunVariables)
    (hscripts : ScriptsOnly ctx vars.source) (token : Nat → Bool) {events events' : List Event}
    {result result' : Except ExecError Outcome} (h : (run ctx vars).Plays events result)
    (h' : (run ctx vars).Plays events' result') (hopen : AllOpen events) (hopen' : AllOpen events')
    (hreads : Reads token events) (hreads' : Reads token events') :
    sentTo events = sentTo events' ∧
      (ReadSet events ∧ result = .error .cancelled ∧
          ReadSet events' ∧ result' = .error .cancelled ∨
        (∃ tally : Tally ctx vars events, result = .ok tally.outcome) ∧
          ∃ tally : Tally ctx vars events', result' = .ok tally.outcome) := by
  obtain ⟨items, hstraight⟩ := exists_straight_run hscripts
  have hcomplete : ∀ {events result}, (run ctx vars).Plays events result → AllOpen events →
      ¬ ReadSet events → (∃ a, result = .ok a) →
        ∃ tally : Tally ctx vars events, result = .ok tally.outcome := by
    rintro events _ hp hopen hunset ⟨outcome, rfl⟩
    obtain ⟨tally, rfl⟩ := exists_tally hscripts hp (unhindered_iff.2 ⟨hopen, hunset⟩)
    exact ⟨tally, rfl⟩
  obtain ⟨hasked, hend⟩ := hstraight.asked_eq h hopen hreads
  obtain ⟨hasked', hend'⟩ := hstraight.asked_eq h' hopen' hreads'
  refine ⟨?_, ?_⟩
  · rw [sentTo, sentTo, ← addressed_asked, ← addressed_asked, hasked, hasked']
  · rcases hend with ⟨hcut, hread, hresult⟩ | ⟨hcut, hunset, hok⟩
    · rcases hend' with ⟨-, hread', hresult'⟩ | ⟨hcut', -⟩
      · exact .inl ⟨hread, hresult, hread', hresult'⟩
      · rw [hcut] at hcut'
        cases hcut'
    · rcases hend' with ⟨hcut', -⟩ | ⟨-, hunset', hok'⟩
      · rw [hcut] at hcut'
        cases hcut'
      · exact .inr ⟨hcomplete h hopen hunset hok, hcomplete h' hopen' hunset' hok'⟩

open Rehearsal

/-- A script on two databases with a batch that may be rejected, and a nested build script with an
inverted range, an inclusion of the outer one, and a second script; then a file that is missing. -/
def outerInner : Context :=
  let env : Environment :=
    { name := "dev", host := "dbhost", port := none, user := "sa", password := "secret",
      platform := .mssql, company := "101", language := "1", root := "/sql", rawMode := false,
      named := true }
  { env
    options := { env, maxAge := 0 }
    files := { entries := [
      (["outer"], .file (Utf8.encode
        "# all\nrunsql /a.sql -Dmain -Dreport\nruncreate /inner\nrunsql /missing.sql\n") 0),
      (["inner"], .file (Utf8.encode
        "runsql /a.sql -F2 -L1\nruncreate /outer\n\nrunsql /b.sql\n") 0),
      (["a.sql"], .file (Utf8.encode "insert\ngo\nupdate\ngo\n") 0),
      (["b.sql"], .file (Utf8.encode "select\n") 0)] } }

theorem failure_isolation_outerInner :
    let work := run outerInner { source := "/outer", changelog := true }
    let first : MemoryServer := { failing := [("insert", [])] }
    let second : MemoryServer := { failing := [("select", []), ("exec", [])] }
    ScriptsOnly outerInner "/outer" ∧
      sentTo (work.run.trace MemoryServer.host first) =
        sentTo (work.run.trace MemoryServer.host second) ∧
      (work.run.exec MemoryServer.host first).1 = .ok ⟨6, 5⟩ ∧
      (work.run.exec MemoryServer.host second).1 = .ok ⟨6, 4⟩ := by
  intro work first second
  have hscripts : ScriptsOnly outerInner "/outer" :=
    .of_closed ["/outer", "/inner"] (by decide) (by decide +kernel)
  have hfree : Unhindered (work.run.trace MemoryServer.host first) := by decide +kernel
  have hfree' : Unhindered (work.run.trace MemoryServer.host second) := by decide +kernel
  obtain ⟨hsame, -⟩ := failure_isolation outerInner _ hscripts (fun _ => false)
    (Run.plays_exec MemoryServer.host work.run first)
    (Run.plays_exec MemoryServer.host work.run second) (unhindered_iff.1 hfree).1
    (unhindered_iff.1 hfree').1 hfree.reads hfree'.reads
  exact ⟨hscripts, hsame, by decide +kernel, by decide +kernel⟩

end Build

end SqlBuild
