import SqlBuild.Proofs.BatchSplitting
import SqlBuild.Proofs.LineByLine
import SqlBuild.Proofs.MatchingRuns
import SqlBuild.Proofs.ScriptPreview

/-!
# Inline commands

A command given on the command line is resolved as a whole, a script line by line, and each gets its
last terminator in its own way; the batches are the same (`Inline.split_compose`). A command that
does not end in white space then runs like a script with this text, and the server cannot tell which
of the two it was (`Inline.runs_like_script`).
-/

namespace SqlBuild

namespace Text

variable {t : Text}

theorem trimEnd_feed_ne (t : Text) : trimEnd (t ++ ['\n']) ≠ t ++ ['\n'] := by
  intro h
  have hlength := (trimEnd_isPrefix t).length_le
  have hfeed : ∀ c ∈ (['\n'] : Text), isBlank c = true :=
    List.forall_mem_singleton.2 (by decide)
  rw [trimEnd_append hfeed] at h
  rw [h, List.length_append, List.length_singleton] at hlength
  omega

/-- The lines of a text whose last line is not ended. -/
theorem lines_of_unended (h : '\r' ∉ t) (hne : t ≠ []) (hends : t.getLast? ≠ some '\n') :
    lines t = t.splitOn '\n' := by
  obtain ⟨before, last, hpieces⟩ :=
    (List.eq_nil_or_concat' (t.splitOn '\n')).resolve_left (List.splitOn_ne_nil '\n' t)
  have hmap := map_dropReturn_splitOn h
  have hjoin : unlines before ++ last = t := by
    have hall := unlines_splitOn t
    rw [hpieces] at hall
    have hended : unlines before ++ last ++ ['\n'] = t ++ ['\n'] := by
      simpa [unlines] using hall
    exact List.append_cancel_right hended
  have hlast : last ≠ [] := by
    rintro rfl
    rw [List.append_nil] at hjoin
    rcases List.eq_nil_or_concat' before with rfl | ⟨front, line, rfl⟩
    · exact hne hjoin.symm
    · exact hends (by rw [← hjoin]; simp [unlines])
  rw [hpieces, List.map_append] at hmap
  rw [lines, hpieces, List.dropLast_concat, List.getLast?_concat, Option.getD_some, if_neg hlast]
  exact congrArg (· ++ [last]) (List.append_inj_left hmap (by simp))

end Text

/-- What a script that composes to this text does when it has looked at the token. -/
def Script.once (vars : RunVariables) (sql : Text) : Exec Bool :=
  if vars.preview then do
    liftM (Run.emit sql)
    return true
  else do
    let outcome ← Exec.orFold do return .unit (← execute sql vars.database vars.echo false)
    return outcome.isSuccess

/-- Without a range a script runs once. -/
theorem Script.run_eq_once {ctx : Context} {vars : RunVariables} {content : Text}
    (hsource : ctx.files.readLossy (ctx.locate vars.source) = .ok content)
    (hsequence : vars.sequence = none) (hchangelog : vars.changelog = false) :
    run ctx vars = Exec.checkCancelled >>= fun _ =>
      once vars (compose ctx content none none) >>= fun ok => pure (.unit ok) := by
  rw [run_eq hsource (by simp [hsequence]), audit?, hchangelog, runText, hsequence]
  exact bind_assoc Exec.checkCancelled (fun _ => once vars (compose ctx content none none))
    fun ok => pure (Outcome.unit ok)

namespace Inline

variable {ctx : Context} {command : Text}

theorem split_compose (hnames : ctx.Separates '\n') (hreturn : '\r' ∉ command)
    (hexit : ∀ line ∈ Text.lines command, Batch.isExit line = false)
    (hends : Text.trimEnd (ctx.resolveWord command) = ctx.resolveWord command) :
    Batch.split (compose (ctx.resolveWord command)) =
      Batch.split (Script.compose ctx command none none) := by
  have hlocal := Context.resolve_append_cons hnames (by decide) (by decide) none
  have hbody : Script.body command = Text.lines command :=
    List.takeWhile_eq_self_iff.2 fun line hline => by simp [hexit line hline]
  -- The terminator stands on a line of its own behind the resolved command.
  have hinline : Batch.split (compose (ctx.resolveWord command)) =
      Batch.split (ctx.resolveWord command ++ ['\n']) := by
    have hgo : Text.lines ("go\n" : Text) = [("go" : Text)] := rfl
    have htext : compose (ctx.resolveWord command) =
        ctx.resolveWord command ++ '\n' :: ("go\n" : Text) := by
      rw [compose, hends]
      rfl
    have hlines := Text.lines_feed_append (ctx.resolveWord command) ("go\n" : Text)
    rw [htext, Batch.split, hlines, hgo]
    exact (Batch.ofLines_terminator (by decide)).trans (List.append_nil _)
  rw [hinline, Script.split_compose, hbody]
  by_cases hempty : command = []
  · subst hempty
    rw [show ctx.resolveWord [] = [] from ctx.resolve_nil none]
    rfl
  · have hunended : command.getLast? ≠ some '\n' := by
      intro hlast
      obtain ⟨before, rfl⟩ := List.getLast?_eq_some_iff.1 hlast
      have hfeed : ctx.resolveWord (before ++ ['\n']) = ctx.resolveWord before ++ ['\n'] := by
        rw [Context.resolveWord, hlocal, ctx.resolve_nil]
        rfl
      rw [hfeed] at hends
      exact Text.trimEnd_feed_ne _ hends
    have hresolved : Script.resolved ctx (Text.lines command) =
        ctx.resolveWord command ++ ['\n'] := by
      have hwhole := Text.apply_unlines (f := ctx.resolveWord) hlocal (ctx.resolve_nil none)
      rw [Script.resolved, ← hwhole, Text.lines_of_unended hreturn hempty hunended,
        Text.unlines_splitOn, Context.resolveWord, hlocal, ctx.resolve_nil]
      rfl
    rw [hresolved]

variable {σ τ : Type} {host : Host σ} {server : σ → τ} {vars vars' : RunVariables}

open Exec

/-- One session with these batches, however the results are shown. -/
theorem matches_session (hhost : host.Serves server) {sql sql' : Text}
    (hsplit : Batch.split sql = Batch.split sql') (database : Option Text) (echo audited : Bool) :
    Matches host server (fun ok report => ok = report.success)
      (Script.execute sql database echo audited) (Batch.runOnce sql' database) := by
  refine Matches.withSession hhost ?_ database
  rw [hsplit]
  refine (Batch.matches_runFrom hhost (Script.only_showBatch echo audited)
    (fun _ _ _ => Run.only_done ()) _ 0 0).bind ?_
  rintro results _ rfl
  exact matches_pure rfl

/-- The two kinds of work in a session, with what they tell of it. -/
theorem matches_work (hhost : host.Serves server) {sql sql' : Text}
    (hsplit : Batch.split sql = Batch.split sql') (database : Option Text) (echo : Bool) :
    Matches host server Outcome.Alike
      (do return .unit (← Script.execute sql database echo false))
      (do
        let report ← Batch.runOnce sql' database
        liftM (Run.emit report.output)
        if !report.success then liftM (Run.reportError "One or more batches failed.")
        return .unit report.success) := by
  refine (matches_session hhost hsplit database echo false).bind ?_
  rintro _ report rfl
  have hdone : Matches host server Outcome.Alike (pure (.unit report.success))
      (pure (.unit report.success)) := matches_pure rfl
  exact (hdone.tellIf hhost (Run.only_write _) _).tell hhost (Run.only_emit _)

/-- A script matches a command that has the same batches. -/
theorem matches_once (hhost : host.Serves server) {sql : Text}
    (hsplit : Batch.split sql = Batch.split (compose (ctx.resolveWord vars'.source)))
    (hdatabase : vars'.database = vars.database) (hpreview : vars'.preview = vars.preview) :
    Matches host server (fun ok o => ok = o.isSuccess) (Script.once vars sql) (run ctx vars') := by
  refine Matches.tellIf hhost ?_ (Run.only_emit _) vars'.echo
  rw [Script.once, hpreview, hdatabase]
  cases vars.preview with
  | true =>
    exact (matches_told hhost (Run.only_emit _) (Run.only_emit _)).bind fun _ _ _ =>
      matches_pure rfl
  | false => exact ((matches_work hhost hsplit _ _).orFold hhost).map_left fun _ _ h => h

/-- A command runs like a script with its text, up to what is told to the user. Before every server
whose answers do not depend on what the user is told, in preview or not, the two open the same
session, send the same batches, get the same answers and close it; then both have succeeded or both
have failed, or they have been stopped by the same error. The script looks at the token before its
session and the command does not, so this look is not to find a run that was cancelled before it
began; when it is cancelled later, both stop at the same batch. -/
theorem runs_like_script (ctx : Context) (vars vars' : RunVariables) {command : Text}
    (hsource : ctx.files.readLossy (ctx.locate vars.source) = .ok command)
    (hcommand : vars'.source = command) (hsequence : vars.sequence = none)
    (hchangelog : vars.changelog = false) (hdatabase : vars'.database = vars.database)
    (hpreview : vars'.preview = vars.preview) (hnames : ctx.Separates '\n')
    (hreturn : '\r' ∉ command) (hexit : ∀ line ∈ Text.lines command, Batch.isExit line = false)
    (hends : Text.trimEnd (ctx.resolveWord command) = ctx.resolveWord command)
    (hhost : host.Serves server) {s : σ} (hunset : (host.answer .poll s).1 = false) :
    let script := (Script.run ctx vars).run
    let inline := (run ctx vars').run
    dealings (script.trace host s) = dealings (inline.trace host s) ∧
      server (script.exec host s).2 = server (inline.exec host s).2 ∧
      Outcome.isSuccess <$> (script.exec host s).1 =
        Outcome.isSuccess <$> (inline.exec host s).1 := by
  intro script inline
  have hsplit : Batch.split (Script.compose ctx command none none) =
      Batch.split (compose (ctx.resolveWord vars'.source)) := by
    rw [hcommand, split_compose hnames hreturn hexit hends]
  have hmatch : Matches host server Outcome.Alike
      (Script.once vars (Script.compose ctx command none none) >>= fun ok => pure (.unit ok))
      (run ctx vars') :=
    (matches_once hhost hsplit hdatabase hpreview).map_left fun ok o h =>
      (Outcome.isSuccess_unit ok).trans h
  obtain ⟨hresult, hend, hdealings⟩ := hmatch.afterLook hhost hunset
  rw [← Script.run_eq_once hsource hsequence hchangelog] at hresult hend hdealings
  exact ⟨hdealings, hend, hresult.map_eq fun _ _ h => h⟩

open Rehearsal

/-- A server in memory that rejects one kind of batch, and remembers nothing. -/
def forgetful : Host Unit where
  answer action _ := ((MemoryServer.host.answer action Script.rejecting).1, ())

theorem serves_forgetful : forgetful.Serves id :=
  ⟨fun _ _ _ => rfl, fun _ _ _ _ _ => ⟨rfl, rfl⟩⟩

/-- Empty batches, terminators in the last two lines, and a placeholder. -/
def ragged : Text := "\ngo\ninsert &users& values (1)\nGO\n\n go \nmissing\ngo\n\n  go"

theorem runs_like_script_ragged :
    let ctx : Context := { Script.threeBatches with
      files := { entries := [(["a.sql"], .file (Utf8.encode ragged) 0)] } }
    let script := (Script.run ctx { source := "/a.sql", echo := true }).run
    let inline := (run ctx { source := ragged }).run
    dealings (script.trace forgetful ()) = dealings (inline.trace forgetful ()) ∧
      (sent (inline.trace forgetful ())).map Prod.fst =
        [("insert sbnmaster..users values (1)\n" : Text), ("missing\n" : Text)] ∧
      (script.exec forgetful ()).1 = .ok .failure ∧
      Outcome.isSuccess <$> (inline.exec forgetful ()).1 = .ok false := by
  intro ctx script inline
  have hnames : ctx.Separates '\n' := by
    rintro d hd e he
    obtain rfl := Option.some.inj hd
    obtain rfl := List.mem_singleton.1 he
    decide
  have hfailed : (script.exec forgetful ()).1 = .ok .failure := by decide +kernel
  obtain ⟨hdealings, -, hresult⟩ := runs_like_script ctx
    { source := "/a.sql", echo := true } { source := ragged }
    (by decide +kernel) rfl rfl rfl rfl rfl hnames (by decide +kernel) (by decide +kernel)
    (by decide +kernel) serves_forgetful (s := ()) rfl
  refine ⟨hdealings, by decide +kernel, hfailed, ?_⟩
  rw [← hresult, hfailed]
  rfl

end Inline

end SqlBuild
