import SqlBuild.Proofs.FailureIsolation
import SqlBuild.Proofs.ScratchFiles
import SqlBuild.Proofs.ScriptPieces
import SqlBuild.Proofs.UpgradeStretches

/-!
# Plain upgrade files

An upgrade file without control lines sends what a script of the same content sends, batch for
batch, and on the same database (`plain_upgrade_sends_script`). The script holds one session for all
of them; the upgrade opens one for each piece between the lines that end batches, so what a batch
leaves behind in its session reaches the next piece in the script only (`sessions_matter`).
-/

namespace SqlBuild

theorem Batch.sendable_eq_self {batches : List Text} (h : ∀ sql ∈ batches, isExit sql = false) :
    sendable batches = batches :=
  List.takeWhile_eq_self_iff.2 fun sql hsql => by simp [h sql hsql]

theorem Script.batches_of_none {ctx : Context} {vars : RunVariables} (h : vars.sequence = none)
    (audit : Option Text) (content : Text) : batches ctx vars audit content =
      if vars.preview then []
      else Batch.sendable (Batch.split (compose ctx content audit none)) := by
  rw [batches, h, values, List.flatMap_singleton]

theorem map_snd_sentTo (events : List Event) :
    (sentTo events).map Prod.snd = (sent events).map Prod.fst := by
  have haddressed : ∀ (actions : List Action) (database : Option Text),
      (addressed database actions).map Prod.snd = actions.filterMap Action.sql? := by
    intro actions
    induction actions with
    | nil => exact fun _ => rfl
    | cons action rest ih =>
      intro database
      cases action with
      | batch sql => exact congrArg (sql :: ·) (ih database)
      | connect opened => exact ih opened
      | _ => exact ih database
  rw [map_fst_sent, sentTo, ← addressed_asked, haddressed]

/-- Wherever these are done, `out` is sent, each batch in a session on the database beside it. -/
def Addresses (items : List Action) (out : List (Option Text × Text)) : Prop :=
  ∀ database rest, ∃ database', addressed database (items ++ rest) = out ++ addressed database' rest

namespace Addresses

variable {items items' : List Action} {out out' : List (Option Text × Text)}

theorem nil : Addresses [] [] := fun database _ => ⟨database, rfl⟩

theorem poll : Addresses [.poll] [] := fun database _ => ⟨database, rfl⟩

theorem append (h : Addresses items out) (h' : Addresses items' out') :
    Addresses (items ++ items') (out ++ out') := by
  intro database rest
  obtain ⟨between, hout⟩ := h database (items' ++ rest)
  obtain ⟨database', hout'⟩ := h' between rest
  exact ⟨database', by rw [List.append_assoc, hout, hout', List.append_assoc]⟩

theorem flatMap {α : Type} {f : α → List Action} {g : α → List (Option Text × Text)}
    (h : ∀ a, Addresses (f a) (g a)) : ∀ as : List α, Addresses (as.flatMap f) (as.flatMap g)
  | [] => nil
  | a :: as => (h a).append (flatMap h as)

theorem session (database : Option Text) (batches : List Text) :
    Addresses (.connect database :: Batch.items batches)
      ((Batch.sendable batches).map fun sql => (database, sql)) := by
  have hinside : ∀ (sqls : List Text) (rest : List Action),
      addressed database (sqls.flatMap (fun sql => [.poll, .batch sql]) ++ rest) =
        sqls.map (fun sql => (database, sql)) ++ addressed database rest := by
    intro sqls rest
    induction sqls with
    | nil => rfl
    | cons sql sqls ih => exact congrArg ((database, sql) :: ·) ih
  exact fun _ rest => ⟨database, hinside _ rest⟩

theorem sentTo_eq {events : List Event} (h : Addresses (asked events) out) :
    sentTo events = out := by
  obtain ⟨database, hout⟩ := h none []
  rw [List.append_nil, addressed_asked] at hout
  exact hout.trans (List.append_nil out)

end Addresses

theorem Exec.Straight.asked_of_unhindered {α : Type} {x : Exec α} {items : List Action}
    (h : x.Straight items) {events : List Event} {result : Except ExecError α}
    (hp : x.Plays events result) (hfree : Unhindered events) : asked events = items := by
  obtain ⟨hopen, hunset⟩ := unhindered_iff.1 hfree
  rcases h _ _ hp hopen with ⟨_, -, -, hasked⟩ | ⟨-, _, _, hcut, -⟩
  · exact hasked
  · exact absurd hcut.readSet hunset

theorem Script.addresses_items (ctx : Context) (vars : RunVariables) (audit : Option Text)
    (content : Text) : Addresses (items ctx vars audit content)
      ((batches ctx vars audit content).map fun sql => (vars.database, sql)) := by
  have hone : ∀ sql, Addresses (iterationItems vars sql) (if vars.preview then [] else
      (Batch.sendable (Batch.split sql)).map fun sql => (vars.database, sql)) := by
    intro sql
    have hsession : Addresses
        (if vars.preview then [] else .connect vars.database :: Batch.items (Batch.split sql))
        (if vars.preview then [] else
          (Batch.sendable (Batch.split sql)).map fun sql => (vars.database, sql)) := by
      split
      · exact .nil
      · exact .session _ _
    exact Addresses.poll.append hsession
  have hall :=
    Addresses.flatMap (fun n => hone (compose ctx content audit n)) (values vars.sequence)
  unfold items batches
  convert hall using 1
  split
  · simp
  · exact List.map_flatMap ..

namespace Upgrade

variable {ctx : Context} {vars : RunVariables} {database : Option Text}

/-- Lines that are SQL, or end a batch or the file. -/
def IsPlainLine (line : Text) : Prop :=
  UpgradeLine.ofLine line = .sql ∨ UpgradeLine.ofLine line = .terminator ∨
    UpgradeLine.ofLine line = .exit

theorem filterMap_gathered_plain {pending : List Text}
    (hpending : ∀ line ∈ pending, Batch.isTerminator line = false) :
    (gathered database pending).filterMap Step.part? =
      (Batch.ofLines pending.reverse).map (.batch database) := by
  rw [Batch.ofLines_unterminated fun line hl => hpending line (List.mem_reverse.1 hl), gathered]
  split <;> rfl

/-- The parts of a plain file are its pieces between the lines that end batches. -/
theorem filterMap_plan_plain : ∀ {lines pending : List Text}, (∀ line ∈ lines, IsPlainLine line) →
    (∀ line ∈ pending, Batch.isTerminator line = false) →
    (plan ctx database pending lines).filterMap Step.part? =
      (Batch.ofLines (pending.reverse ++ lines.takeWhile (!Batch.isExit ·))).map (.batch database)
  | [], pending, _, hpending => by
    rw [List.takeWhile_nil, List.append_nil, plan, filterMap_gathered_plain hpending]
  | line :: lines, pending, hlines, hpending => by
    obtain ⟨hline, hrest⟩ := List.forall_mem_cons.1 hlines
    rw [plan, List.filterMap_cons_none rfl]
    rcases hline with hline | hline | hline
    · obtain ⟨hstays, hopen⟩ := UpgradeLine.fits_of_ofLine hline
      have hmore := filterMap_plan_plain hrest (List.forall_mem_cons.2 ⟨hopen, hpending⟩)
      simpa [hline, hstays] using hmore
    · obtain ⟨hstays, hends⟩ := UpgradeLine.fits_of_ofLine hline
      have hmore := filterMap_plan_plain hrest (List.forall_mem_nil _)
      rw [List.takeWhile_cons_of_pos (by simp [hstays]), Batch.ofLines_terminator hends]
      simp only [hline, List.filterMap_append, List.map_append, filterMap_gathered_plain hpending]
      rw [hmore]
      rfl
    · have hleaves : Batch.isExit line = true := UpgradeLine.fits_of_ofLine hline
      simp [hline, hleaves, filterMap_gathered_plain hpending]

/-- Batches of SQL only, each in its scratch file. -/
def Step.IsPlain (ctx : Context) (database : Option Text) : Step → Prop
  | .poll => True
  | .part p => ∃ text, p = .batch database text ∧ Staged ctx text

/-- What a batch of SQL asks. -/
def Part.items (ctx : Context) (vars : RunVariables) : Part → List Action
  | batch database text => Script.items ctx { vars.nested [] with database } none text
  | _ => []

/-- What a batch of SQL sends. -/
def Part.batches (ctx : Context) (vars : RunVariables) : Part → List Text
  | batch _ text => Script.batches ctx (vars.nested []) none text
  | _ => []

def Step.items (ctx : Context) (vars : RunVariables) : Step → List Action
  | poll => [.poll]
  | part p => p.items ctx vars

theorem Part.straight_batch {text : Text} (h : Staged ctx text) :
    ((batch database text).run ctx vars).Straight ((batch database text).items ctx vars) := by
  rw [run, Walk.runBatch_eq h]
  exact Script.straight_runText none text

theorem Part.addresses_batch (text : Text) :
    Addresses ((batch database text).items ctx vars)
      (((batch database text).batches ctx vars).map fun sql => (database, sql)) :=
  Script.addresses_items ctx _ none text

/-- A batch of SQL fails exactly when one of its batches is rejected. -/
theorem Part.result_batch {text : Text} {events : List Event} {result : Except ExecError Outcome}
    (hstaged : Staged ctx text) (h : ((batch database text).run ctx vars).Plays events result)
    (hfree : Unhindered events) : result = .ok (.unit !(sent events).any isRejected) := by
  rw [run, Walk.runBatch_eq hstaged] at h
  exact (Script.result_runText h hfree).2

theorem straight_runSteps : ∀ {steps : List Step}, (∀ step ∈ steps, step.IsPlain ctx database) →
    (runSteps ctx vars steps).Straight (steps.flatMap (Step.items ctx vars))
  | [], _ => Exec.straight_pure []
  | .poll :: rest, h =>
    Exec.straight_checkCancelled.bind fun _ => straight_runSteps (List.forall_mem_cons.1 h).2
  | .part p :: rest, h => by
    obtain ⟨⟨text, rfl, hstaged⟩, hrest⟩ := List.forall_mem_cons.1 h
    rw [runSteps]
    exact (Part.straight_batch hstaged).bind fun outcome => (straight_runSteps hrest).bind_pure _

theorem addresses_steps {steps : List Step} (h : ∀ step ∈ steps, step.IsPlain ctx database) :
    Addresses (steps.flatMap (Step.items ctx vars))
      (((steps.filterMap Step.part?).flatMap (Part.batches ctx vars)).map
        fun sql => (database, sql)) := by
  induction steps with
  | nil => exact .nil
  | cons step rest ih =>
    obtain ⟨hstep, hrest⟩ := List.forall_mem_cons.1 h
    cases step with
    | poll => exact Addresses.poll.append (ih hrest)
    | part p =>
      obtain ⟨text, rfl, -⟩ := hstep
      have hparts : (Step.part (.batch database text) :: rest).filterMap Step.part? =
          .batch database text :: rest.filterMap Step.part? := rfl
      rw [hparts, List.flatMap_cons, List.flatMap_cons, List.map_append]
      exact (Part.addresses_batch text).append (ih hrest)

/-- Steps end with their parts all run, and all succeeded exactly when no batch is rejected. -/
theorem allOk_runSteps : ∀ {steps : List Step} {events : List Event}
    {result : Except ExecError (List (Part × Outcome))},
    (∀ step ∈ steps, step.IsPlain ctx database) → (runSteps ctx vars steps).Plays events result →
      Unhindered events → ∃ done, result = .ok done ∧ allOk done = !(sent events).any isRejected
  | [], _, _, _, h, _ => by
    obtain ⟨rfl, rfl⟩ := h
    exact ⟨[], rfl, rfl⟩
  | .poll :: rest, _, _, hplain, h, hfree => by
    rw [runSteps] at h
    obtain ⟨after, rfl, hrest⟩ | ⟨rfl, -⟩ := Exec.plays_checkCancelled_bind h
    · obtain ⟨done, hdone, hok⟩ :=
        allOk_runSteps (List.forall_mem_cons.1 hplain).2 hrest (unhindered_cons.1 hfree).2
      exact ⟨done, hdone, hok⟩
    · cases hfree _ List.mem_cons_self
  | .part p :: rest, _, _, hplain, h, hfree => by
    obtain ⟨⟨text, rfl, hstaged⟩, hothers⟩ := List.forall_mem_cons.1 hplain
    rw [runSteps] at h
    rcases Exec.plays_bind.1 h with ⟨outcome, share, after, rfl, hp, hrest⟩ | ⟨e, hp, -⟩
    · obtain ⟨hshare, hafter⟩ := unhindered_append.1 hfree
      have houtcome : outcome = .unit !(sent share).any isRejected :=
        Except.ok.inj (Part.result_batch hstaged hp hshare)
      rcases Exec.plays_bind.1 hrest with ⟨more, during, last, rfl, hmore, hend⟩ | ⟨e, hmore, -⟩
      · obtain ⟨rfl, rfl⟩ := hend
        obtain ⟨_, heq, hok⟩ := allOk_runSteps hothers hmore (unhindered_append.1 hafter).1
        obtain rfl := Except.ok.inj heq
        refine ⟨_, rfl, ?_⟩
        rw [List.append_nil, sent_append, List.any_append, Bool.not_or, ← hok, houtcome, allOk,
          List.all_cons, Outcome.isSuccess_unit]
        rfl
      · obtain ⟨_, hcon, -⟩ := allOk_runSteps hothers hmore hafter
        cases hcon
    · cases Part.result_batch hstaged hp hfree

/-- No carriage returns, and no line that names a database, runs a script or is a statement on its
own. -/
structure IsPlain (content : Text) : Prop where
  noReturn : '\r' ∉ content
  plain : ∀ line ∈ Text.lines content, IsPlainLine line

instance (line : Text) : Decidable (IsPlainLine line) := inferInstanceAs (Decidable (_ ∨ _))

instance (content : Text) : Decidable (IsPlain content) :=
  decidable_of_iff ('\r' ∉ content ∧ ∀ line ∈ Text.lines content, IsPlainLine line)
    ⟨fun h => ⟨h.1, h.2⟩, fun h => ⟨h.noReturn, h.plain⟩⟩

theorem IsPlain.stays {content : Text} (h : IsPlain content) :
    ∀ line ∈ Script.body content, Script.Stays line := by
  intro line hl
  have hline : line ∈ Text.lines content := (List.takeWhile_sublist _).subset hl
  exact ⟨Text.not_mem_lines hline, fun hmem => h.noReturn (Text.subset_of_mem_lines hline hmem),
    by simpa using List.mem_takeWhile_imp hl⟩

/-- The steps of a plain file, and what they send: the batches of the file's script. -/
theorem plan_plain (database : Option Text) {content : Text} (h : IsPlain content)
    (hstaged : ∀ text ∈ Batch.ofLines (Script.body content), Staged ctx text)
    (hexit : ∀ sql ∈ Batch.split (Script.compose ctx content none none), Batch.isExit sql = false)
    (hsequence : vars.sequence = none) :
    let steps := plan ctx database [] (Text.lines content)
    (∀ step ∈ steps, step.IsPlain ctx database) ∧
      (steps.filterMap Step.part?).flatMap (Part.batches ctx vars) =
        Script.batches ctx vars none content := by
  intro steps
  have hpieces : Batch.split (Script.compose ctx content none none) =
      (Batch.ofLines (Script.body content)).flatMap
        fun text => Batch.split (Script.compose ctx text none none) := by
    rw [Script.split_compose]
    exact Script.split_resolved (Script.body content) [] h.stays (by simp)
  have hparts : steps.filterMap Step.part? =
      (Batch.ofLines (Script.body content)).map (.batch database) :=
    filterMap_plan_plain h.plain (by simp)
  refine ⟨fun step hstep => ?_, ?_⟩
  · cases step with
    | poll => trivial
    | part p =>
      have hmem : p ∈ steps.filterMap Step.part? := List.mem_filterMap.2 ⟨_, hstep, rfl⟩
      rw [hparts] at hmem
      obtain ⟨text, htext, rfl⟩ := List.mem_map.1 hmem
      exact ⟨text, rfl, hstaged text htext⟩
  · have hone : ∀ text ∈ Batch.ofLines (Script.body content),
        Script.batches ctx (vars.nested []) none text =
          if vars.preview then [] else Batch.split (Script.compose ctx text none none) := by
      intro text htext
      have hstays := fun sql hsql => hexit sql (hpieces ▸ List.mem_flatMap.2 ⟨text, htext, hsql⟩)
      rw [Script.batches_of_none rfl, Batch.sendable_eq_self hstays]
      rfl
    rw [hparts, List.flatMap_map, Script.batches_of_none hsequence, Batch.sendable_eq_self hexit,
      hpieces]
    refine (List.flatMap_congr hone).trans ?_
    cases vars.preview <;> simp

end Upgrade

/-- What a server answers to batches, one after the other, when it looks only at what it has been
sent before. -/
def answers (server : List Text → Text → BatchResult) (before : List Text) :
    List Text → List (Text × BatchResult)
  | [] => []
  | sql :: rest => (sql, server before sql) :: answers server (before ++ [sql]) rest

/-- The batches are answered by the server, which does not look at the sessions they come in. -/
def AnsweredBy (server : List Text → Text → BatchResult) (events : List Event) : Prop :=
  sent events = answers server [] ((sent events).map Prod.fst)

theorem AnsweredBy.sent_eq {server : List Text → Text → BatchResult} {events events' : List Event}
    (h : AnsweredBy server events) (h' : AnsweredBy server events')
    (hsame : sentTo events = sentTo events') : sent events = sent events' := by
  rw [h, h', ← map_snd_sentTo, ← map_snd_sentTo, hsame]

namespace Upgrade

variable {ctx : Context} {vars : RunVariables}

/-- A plain upgrade file runs like the script it is. Its lines are SQL, or end a batch or the file,
no batch it resolves to is a command to leave, and its pieces are staged. Then the walk over it
sends what the script sends, batch for batch, each in a session on the database of the command. Both
come to their end, and succeed exactly when none of the batches is rejected. As the sessions are not
the same, the answers need not be; a server that does not look at the sessions lets both succeed or
both fail. -/
theorem plain_upgrade_sends_script (ctx : Context) (vars : RunVariables) {content : Text}
    (hsource : ctx.files.readLossy (ctx.locate vars.source) = .ok content)
    (hsequence : vars.sequence = none) (hchangelog : vars.changelog = false)
    (hplain : IsPlain content)
    (hexit : ∀ sql ∈ Batch.split (Script.compose ctx content none none), Batch.isExit sql = false)
    (hstaged : ∀ text ∈ Batch.ofLines (Script.body content), Staged ctx text)
    {events events' : List Event} {result : Except ExecError Outcome}
    {result' : Except ExecError Walk} (hscript : (Script.run ctx vars).Plays events result)
    (hupgrade : (Walk.through ctx vars { database := vars.database } (Text.lines content)).Plays
      events' result') (hfree : Unhindered events) (hfree' : Unhindered events') :
    let batches := Script.batches ctx vars none content
    sentTo events = batches.map (fun sql => (vars.database, sql)) ∧
      sentTo events' = batches.map (fun sql => (vars.database, sql)) ∧
      ∃ outcome w, result = .ok outcome ∧ result' = .ok w ∧
        outcome.isSuccess = !(sent events).any isRejected ∧
        w.ok = !(sent events').any isRejected ∧
        ∀ server, AnsweredBy server events → AnsweredBy server events' →
          outcome.isSuccess = w.ok := by
  intro batches
  have hrun : Script.run ctx vars = Script.runText ctx vars none content := by
    rw [Script.run_eq hsource (by simp [hsequence]), Script.audit?, hchangelog]
    rfl
  rw [hrun] at hscript
  obtain ⟨hsteps, hbatches⟩ := plan_plain vars.database hplain hstaged hexit hsequence
  have hflag : (Walk.ok <$> Walk.through ctx vars { database := vars.database }
      (Text.lines content)).Plays events' (Walk.ok <$> result') :=
    Exec.plays_map.2 ⟨_, hupgrade, rfl⟩
  rw [through_eq] at hflag
  obtain ⟨_, hwalk, hdone⟩ := Exec.plays_map.1 hflag
  obtain ⟨done, rfl, hok⟩ := allOk_runSteps hsteps hwalk hfree'
  have hsent : sentTo events = batches.map fun sql => (vars.database, sql) := by
    refine Addresses.sentTo_eq ?_
    rw [(Script.straight_runText none content).asked_of_unhindered hscript hfree]
    exact Script.addresses_items ctx vars none content
  have hsent' : sentTo events' = batches.map fun sql => (vars.database, sql) := by
    refine Addresses.sentTo_eq ?_
    rw [(straight_runSteps hsteps).asked_of_unhindered hwalk hfree']
    exact congrArg (List.map _) hbatches ▸ addresses_steps hsteps
  obtain ⟨-, rfl⟩ := Script.result_runText hscript hfree
  cases result' with
  | error e => cases hdone
  | ok w =>
    have hw : w.ok = !(sent events').any isRejected := by
      rw [← hok]
      exact (Except.ok.inj hdone).symm
    refine ⟨hsent, hsent', _, w, rfl, rfl, Outcome.isSuccess_unit _, hw, fun server h h' => ?_⟩
    rw [Outcome.isSuccess_unit, hw, h.sent_eq h' (hsent.trans hsent'.symm)]

open Rehearsal

/-- A tree with one upgrade file, and options. -/
def oneFile (content : Text) (options : List (Text × Text)) : Context :=
  let env := oneUpgrade.env
  { env
    options := { env, maxAge := 0, dictionary := some ⟨options⟩ }
    files := { entries := [(["tmp"], .directory), (["sct_1.sql"], .file (Utf8.encode content) 0)] } }

def mainVars : RunVariables := { source := "/sct_1.sql", database := some "main" }

/-- A placeholder that stands for two batches, blank pieces, no terminator at the end, and SQL
behind a command to leave. -/
def piecewise : Text :=
  Text.unlines (["&load&", " ", "go", "", "GO ", "select 1", "exit", "select 2"].map String.toList)

def piecewiseOptions : List (Text × Text) := [("&load&", "insert\ngo\nupdate")]

/-- One batch is rejected; the script and the upgrade send the same three and both fail. -/
theorem plain_upgrade_sends_script_piecewise :
    let ctx := oneFile piecewise piecewiseOptions
    let server : MemoryServer := { failing := [("update", [])] }
    let script := Script.run ctx mainVars
    let walk := Walk.through ctx mainVars { database := mainVars.database } (Text.lines piecewise)
    let sqls : List (Option Text × Text) :=
      [(some "main", "insert\n"), (some "main", "update\n \n"), (some "main", "select 1\n")]
    IsPlain piecewise ∧
      sentTo (script.run.trace MemoryServer.host server) = sqls ∧
      sentTo (walk.run.trace MemoryServer.host server) = sqls ∧
      (script.run.exec MemoryServer.host server).1 = .ok .failure ∧
      Walk.ok <$> (walk.run.exec MemoryServer.host server).1 = .ok false := by
  intro ctx server script walk sqls
  have hplain : IsPlain piecewise := by decide +kernel
  have hstaged : ∀ text, Staged ctx text :=
    staged_inDirectory rfl (by decide +kernel) (by decide +kernel)
  have hsqls : (Script.batches ctx mainVars none piecewise).map
      (fun sql => (mainVars.database, sql)) = sqls := by decide +kernel
  obtain ⟨hscript, hwalk, -⟩ := plain_upgrade_sends_script ctx mainVars (by decide +kernel) rfl rfl
    hplain (by decide +kernel) (fun text _ => hstaged text)
    (Run.plays_exec MemoryServer.host script.run server)
    (Run.plays_exec MemoryServer.host walk.run server) (by decide +kernel) (by decide +kernel)
  exact ⟨hplain, hscript.trans hsqls, hwalk.trans hsqls, by decide +kernel, by decide +kernel⟩

/-- A server in memory that takes queries in one of its databases only. -/
def pickyHost : Host MemoryServer where
  answer
    | .batch sql, server =>
      if Text.contains sql "select" ∧ server.database ≠ some "other" then
        (.error ⟨"no such table", []⟩, server)
      else server.batch sql
    | action, server => MemoryServer.host.answer action server

def redirecting : Text := Text.unlines (["&u&", "go", "select 1", "go"].map String.toList)

/-- The script stays in the database that its first batch changes to; the upgrade starts its second
batch in a session of its own, where it is rejected. -/
theorem sessions_matter :
    let ctx := oneFile redirecting [("&u&", "use other")]
    let script := Script.run ctx mainVars
    let walk := Walk.through ctx mainVars { database := mainVars.database } (Text.lines redirecting)
    ctx.files.readLossy (ctx.locate mainVars.source) = .ok redirecting ∧ IsPlain redirecting ∧
      (∀ sql ∈ Batch.split (Script.compose ctx redirecting none none), Batch.isExit sql = false) ∧
      (∀ text, Staged ctx text) ∧
      Unhindered (script.run.trace pickyHost {}) ∧ Unhindered (walk.run.trace pickyHost {}) ∧
      (script.run.exec pickyHost {}).1 = .ok .success ∧
      Walk.ok <$> (walk.run.exec pickyHost {}).1 = .ok false ∧
      .batch (some "other") "select 1\n" ∈ (script.run.exec MemoryServer.host {}).2.log ∧
      .batch (some "main") "select 1\n" ∈ (walk.run.exec MemoryServer.host {}).2.log := by
  intro ctx script walk
  refine ⟨by decide +kernel, by decide +kernel, by decide +kernel,
    staged_inDirectory rfl (by decide +kernel) (by decide +kernel), ?_⟩
  decide +kernel

end Upgrade

end SqlBuild
