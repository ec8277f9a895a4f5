import SqlBuild.Proofs.AuditEntry
import SqlBuild.Proofs.Compilation
import SqlBuild.Proofs.Orderly
import SqlBuild.Proofs.ScriptActions
import SqlBuild.Rehearsal.MemoryServer

/-!
# Raw mode

A run looks at its option set only to resolve texts, so two option sets that resolve alike make the
same run (`Runner.run_withOptions`). In raw mode all of them do, and what a script sends are lines
of its source (`Script.mem_source_of_raw`).
-/

namespace SqlBuild

/-- The same with other options. -/
def Context.withOptions (ctx : Context) (options : OptionSet) : Context := { ctx with options }

/-- The options resolve every text as those of the context do. -/
def Context.ResolvesLike (ctx : Context) (options : OptionSet) : Prop :=
  ∀ t sequence, (ctx.withOptions options).resolve t sequence = ctx.resolve t sequence

variable {ctx : Context} {vars : RunVariables} {options : OptionSet}

section Options

variable (h : ctx.ResolvesLike options)
include h

theorem resolveWord_withOptions : (ctx.withOptions options).resolveWord = ctx.resolveWord :=
  funext fun t => h t none

theorem locate_withOptions (source : Text) :
    (ctx.withOptions options).locate source = ctx.locate source := by
  rw [Context.locate, Context.locate, resolveWord_withOptions h]
  rfl

theorem ofLine_withOptions (line : Text) :
    ParsedLine.ofLine (ctx.withOptions options).resolveWord (ctx.withOptions options).env.root
        line = ParsedLine.ofLine ctx.resolveWord ctx.env.root line := by
  rw [resolveWord_withOptions h]
  rfl

namespace Script

theorem compose_withOptions (content : Text) (audit : Option Text) (sequence : Option Int) :
    compose (ctx.withOptions options) content audit sequence =
      compose ctx content audit sequence := by
  have hresolve : ∀ t, (ctx.withOptions options).resolve t sequence = ctx.resolve t sequence :=
    fun t => h t sequence
  simp only [compose, hresolve]

theorem runText_withOptions (audit : Option Text) (content : Text) :
    runText (ctx.withOptions options) vars audit content = runText ctx vars audit content := by
  have hone : ∀ sequence, iterate (ctx.withOptions options) vars content audit sequence =
      iterate ctx vars content audit sequence := by
    intro sequence
    rw [iterate, compose_withOptions h]
    rfl
  simp only [runText, hone]

theorem run_withOptions : run (ctx.withOptions options) vars = run ctx vars := by
  have hsource : runSource (ctx.withOptions options) vars = runSource ctx vars := by
    unfold runSource
    simp only [locate_withOptions h, runText_withOptions h]
    rfl
  unfold run
  rw [hsource]

theorem runLine_withOptions (line : BuildLine) :
    runLine (ctx.withOptions options) vars line = runLine ctx vars line := by
  have hall : ∀ source databases total,
      forDatabases (ctx.withOptions options) vars line source databases total =
        forDatabases ctx vars line source databases total := by
    intro source databases
    induction databases with
    | nil => exact fun _ => rfl
    | cons database rest ih =>
      intro total
      rw [forDatabases, forDatabases, run_withOptions h]
      exact bind_congr fun outcome => ih _
  unfold runLine
  simp only [hall]

end Script

theorem Inline.run_withOptions : run (ctx.withOptions options) vars = run ctx vars := by
  unfold run
  rw [resolveWord_withOptions h]

theorem Audit.write_withOptions (program : Text) :
    write (ctx.withOptions options) program vars = write ctx program vars := by
  unfold write
  rw [resolveWord_withOptions h]
  rfl

namespace Upgrade

namespace Walk

theorem runBatch_withOptions (database : Option Text) (sql : Text) :
    runBatch (ctx.withOptions options) vars database sql = runBatch ctx vars database sql := by
  have hscript : ∀ files vars, Script.run { ctx.withOptions options with files } vars =
      Script.run { ctx with files } vars := by
    intro files vars
    have hbeside : ({ ctx with files } : Context).ResolvesLike options := h
    exact Script.run_withOptions hbeside
  unfold runBatch
  simp only [hscript]
  rfl

theorem flush_withOptions (w : Walk) :
    w.flush (ctx.withOptions options) vars = w.flush ctx vars := by
  unfold flush
  simp only [runBatch_withOptions h]

theorem embedded_withOptions (w : Walk) (command : Text) :
    w.embedded (ctx.withOptions options) vars command = w.embedded ctx vars command := by
  unfold embedded
  rw [ofLine_withOptions h]
  simp only [Script.runLine_withOptions h]

theorem statement_withOptions (w : Walk) (line : Text) :
    w.statement (ctx.withOptions options) vars line = w.statement ctx vars line := by
  unfold statement
  rw [resolveWord_withOptions h]

theorem through_withOptions : ∀ (lines : List Text) (w : Walk),
    through (ctx.withOptions options) vars w lines = through ctx vars w lines
  | [], w => flush_withOptions h w
  | line :: rest, w => by
    have ih := through_withOptions rest
    simp only [through, flush_withOptions h, embedded_withOptions h, statement_withOptions h,
      resolveWord_withOptions h, ih]

end Walk

theorem applyText_withOptions (id content : Text) :
    applyText (ctx.withOptions options) vars id content = applyText ctx vars id content := by
  have hrecord : ∀ database, record (ctx.withOptions options) id database =
      record ctx id database := by
    intro database
    unfold record
    rw [resolveWord_withOptions h]
  unfold applyText
  simp only [Walk.through_withOptions h, hrecord]

theorem applyFile_withOptions (id path : Text) :
    applyFile (ctx.withOptions options) vars id path = applyFile ctx vars id path := by
  unfold applyFile
  simp only [Audit.write_withOptions h, applyText_withOptions h]
  rfl

theorem run_withOptions : run (ctx.withOptions options) vars = run ctx vars := by
  have hcheck : ∀ id database, check (ctx.withOptions options) id database =
      check ctx id database := by
    intro id database
    unfold check
    rw [resolveWord_withOptions h]
  have hchecked : ∀ id path, applyChecked (ctx.withOptions options) vars id path =
      applyChecked ctx vars id path := by
    intro id path
    unfold applyChecked
    simp only [hcheck, applyFile_withOptions h]
  unfold run
  simp only [locate_withOptions h, applyFile_withOptions h, hchecked]
  rfl

end Upgrade

theorem Compiler.run_withOptions (kind : CompilerKind) :
    run (ctx.withOptions options) kind = run ctx kind := by
  have hplan : kind.plan (ctx.withOptions options) = kind.plan ctx := by
    unfold CompilerKind.plan
    rw [resolveWord_withOptions h]
    rfl
  have hload : ∀ loads, loadAll (ctx.withOptions options) kind loads = loadAll ctx kind loads := by
    intro loads
    induction loads with
    | nil => rfl
    | cons load rest ih =>
      rw [loadAll, loadAll, ih, resolveWord_withOptions h]
      rfl
  have hfollow : ∀ plan, follow (ctx.withOptions options) kind plan = follow ctx kind plan := by
    intro plan
    unfold follow apply
    rw [hload, resolveWord_withOptions h]
  unfold run
  simp only [hplan, hfollow]
  rfl

namespace Build

theorem dispatch_withOptions (enter : RunVariables → Exec Outcome) (line : BuildLine) :
    dispatch (ctx.withOptions options) vars enter line = dispatch ctx vars enter line := by
  unfold dispatch runUpgradeLine runCompilerLine
  simp only [Script.runLine_withOptions h, Upgrade.run_withOptions h, Compiler.run_withOptions h]

theorem runLines_withOptions (enter : RunVariables → Exec Outcome) :
    ∀ (lines : List Text) (total : Outcome),
      runLines (ctx.withOptions options) vars enter lines total =
        runLines ctx vars enter lines total
  | [], _ => rfl
  | line :: rest, total => by
    have ih := runLines_withOptions enter rest
    rw [runLines, runLines, ofLine_withOptions h]
    simp only [dispatch_withOptions h, ih]

theorem runScript_withOptions : ∀ (depth : Nat) (stack : List Text) (vars : RunVariables),
    runScript (ctx.withOptions options) depth stack vars = runScript ctx depth stack vars
  | 0, stack, vars => by
    rw [runScript_zero, runScript_zero, locate_withOptions h]
    rfl
  | depth + 1, stack, vars => by
    have ih : ∀ stack,
        runScript (ctx.withOptions options) depth stack = runScript ctx depth stack :=
      fun stack => funext fun vars => runScript_withOptions depth stack vars
    rw [runScript_succ, runScript_succ, locate_withOptions h]
    simp only [ih, runLines_withOptions h]
    rfl

theorem run_withOptions : run (ctx.withOptions options) vars = run ctx vars := by
  unfold run
  simp only [Audit.write_withOptions h, runScript_withOptions h]
  rfl

end Build

/-- Options are for resolving texts and nothing else. -/
theorem Runner.run_withOptions : ∀ runner : Runner,
    runner.run (ctx.withOptions options) = runner.run ctx
  | script _ => Script.run_withOptions h
  | inlineSql _ => Inline.run_withOptions h
  | build _ => Build.run_withOptions h
  | upgrade _ => Upgrade.run_withOptions h
  | compiler kind => Compiler.run_withOptions h kind

end Options

/-- The same without an audit entry, typed in another way. -/
def Runner.unaudited (line : Text) : Runner → Runner
  | script vars => script (vars.unaudited line)
  | inlineSql vars => inlineSql (vars.unaudited line)
  | build vars => build (vars.unaudited line)
  | upgrade vars => upgrade (vars.unaudited line)
  | compiler kind => compiler kind

section Raw

variable (hraw : ctx.env.rawMode = true)
include hraw

theorem resolve_of_raw (t : Text) (sequence : Option Int) : ctx.resolve t sequence = t :=
  if_pos hraw

theorem resolvesLike_of_raw (options : OptionSet) : ctx.ResolvesLike options := by
  intro t sequence
  have hother : (ctx.withOptions options).resolve t sequence = t := if_pos hraw
  rw [hother, resolve_of_raw hraw]

theorem not_isDue_of_raw (vars : RunVariables) : Audit.isDue ctx vars ≠ true := by
  simp [Audit.isDue, hraw]

theorem Script.audit?_of_raw (program : Text) : audit? ctx program vars = none := by
  simp [audit?, hraw]

theorem Runner.run_unaudited_of_raw (user line : Text) (runner : Runner) :
    (runner.unaudited line).run (ctx.withUser user) = runner.run ctx := by
  cases runner with
  | script vars =>
    have hsource : Script.runSource ctx (vars.unaudited line) = Script.runSource ctx vars := by
      unfold Script.runSource
      simp only [Script.audit?_of_raw hraw]
      rfl
    have hrun : Script.run ctx (vars.unaudited line) = Script.run ctx vars := by
      unfold Script.run
      rw [hsource]
      rfl
    exact (Script.run_withUser user rfl).trans hrun
  | inlineSql vars => rfl
  | build vars =>
    have hrun : Build.run ctx vars = Build.run ctx (vars.unaudited []) := by
      rw [Build.run_eq_write, if_neg (not_isDue_of_raw hraw vars)]
    exact (Build.run_unaudited user line).trans hrun.symm
  | upgrade vars =>
    have hrun : Upgrade.run ctx vars = Upgrade.run ctx (vars.unaudited []) :=
      Upgrade.run_eq_of_not_isDue (not_isDue_of_raw hraw vars)
    exact (Upgrade.run_unaudited user line).trans hrun.symm
  | compiler kind => exact Compiler.run_withUser user kind

theorem Compiler.run_of_raw (kind : CompilerKind) : run ctx kind = pure {} :=
  if_pos hraw

end Raw

namespace Batch

/-- A batch of lines that were closed is a stretch of these lines. -/
theorem infix_of_mem_split_close {ls : List Text} (h : ∀ l ∈ ls, '\n' ∉ l) {sql : Text}
    (hsql : sql ∈ split (Script.close (Text.unlines ls))) :
    ∃ stretch, stretch <:+: ls ∧ sql = Text.unlines (stretch.map Text.dropReturn) := by
  obtain ⟨group, hgroup, rfl⟩ := List.mem_map.1 (List.mem_filter.1 hsql).1
  have hlines := Text.lines_unlines h
  have hmem : group ∈ groups (ls.map Text.dropReturn) ∨ group = [] := by
    unfold Script.close at hgroup
    split at hgroup
    · rw [hlines] at hgroup
      exact .inl hgroup
    · have hgo : Text.unlines ls ++ "go\n" = Text.unlines (ls ++ [("go" : Text)]) := by
        simp [Text.unlines]
      have hfeed : ∀ l ∈ ls ++ [("go" : Text)], '\n' ∉ l := by
        simpa [or_imp, forall_and] using h
      have hclosed : (ls ++ [("go" : Text)]).map Text.dropReturn =
          ls.map Text.dropReturn ++ ("go" : Text) :: [] := by
        rw [List.map_append]
        rfl
      rw [hgo, Text.lines_unlines hfeed, hclosed, groups, List.splitOnP_append_cons _ _ (by decide),
        List.splitOnP_nil, List.mem_append, List.mem_singleton] at hgroup
      exact hgroup
  rcases hmem with hmem | rfl
  · obtain ⟨stretch, hstretch, rfl⟩ := List.infix_map_iff.1 (infix_of_mem_splitOnP hmem)
    exact ⟨stretch, hstretch, rfl⟩
  · exact ⟨[], List.nil_infix, rfl⟩

end Batch

namespace Script

/-- In raw mode a batch is a stretch of lines of the source, each ended by a line feed. -/
theorem mem_source_of_raw (hraw : ctx.env.rawMode = true) {events : List Event}
    {result : Except ExecError Outcome} (h : (run ctx vars).Plays events result) {sql : Text}
    {reply : BatchResult} (hsent : (⟨.batch sql, reply⟩ : Event) ∈ events) :
    ∃ content stretch, ctx.files.readLossy (ctx.locate vars.source) = .ok content ∧
      stretch <:+: Text.lines content ∧ sql = Text.unlines (stretch.map Text.dropReturn) := by
  let P (action : Action) : Prop := ∀ sql, action = .batch sql → ∃ content stretch,
    ctx.files.readLossy (ctx.locate vars.source) = .ok content ∧
      stretch <:+: Text.lines content ∧ sql = Text.unlines (stretch.map Text.dropReturn)
  have hrun : (run ctx vars).Only P := by
    refine only_run (fun action _ hno sql hsql => absurd hsql (hno sql))
      (fun sql hsql => by cases hsql)
      fun content hread sequence batch hbatch sql hsql => ?_
    obtain rfl := Action.batch.inj hsql
    rw [audit?_of_raw hraw] at hbatch
    have hcompose : compose ctx content none sequence = close (Text.unlines (body content)) := by
      simp [compose, resolve_of_raw hraw]
    have hbody : body content <+: Text.lines content := List.takeWhile_prefix _
    obtain ⟨stretch, hstretch, htext⟩ := Batch.infix_of_mem_split_close
      (fun l hl => Text.not_mem_lines (hbody.subset hl)) (hcompose ▸ hbatch)
    exact ⟨content, stretch, hread, hstretch.trans hbody.isInfix, htext⟩
  exact hrun events result h _ hsent sql rfl

end Script

/-- In raw mode a run is the same program under any two option sets, and under any user and command
line, which every audit statement names; a compiler does nothing; and what a script sends are
stretches of the lines of its source. -/
theorem raw_mode_ignores_options (ctx : Context) (hraw : ctx.env.rawMode = true) :
    (∀ (runner : Runner) (options options' : OptionSet),
      runner.run (ctx.withOptions options) = runner.run (ctx.withOptions options')) ∧
    (∀ (runner : Runner) (user line : Text),
      (runner.unaudited line).run (ctx.withUser user) = runner.run ctx) ∧
    (∀ program line, Function.Injective (Audit.statement program line)) ∧
    (∀ kind, Compiler.run ctx kind = pure {}) ∧
    ∀ (vars : RunVariables) (events : List Event) (result : Except ExecError Outcome),
      (Script.run ctx vars).Plays events result → ∀ sql reply, ⟨.batch sql, reply⟩ ∈ events →
        ∃ content stretch, ctx.files.readLossy (ctx.locate vars.source) = .ok content ∧
          stretch <:+: Text.lines content ∧ sql = Text.unlines (stretch.map Text.dropReturn) := by
  refine ⟨fun runner options options' => ?_, fun runner user line => ?_,
    fun program => Audit.statement_injective program, Compiler.run_of_raw hraw,
    fun vars events result h sql reply => Script.mem_source_of_raw hraw h⟩
  · rw [Runner.run_withOptions (resolvesLike_of_raw hraw options),
      Runner.run_withOptions (resolvesLike_of_raw hraw options')]
  · exact Runner.run_unaudited_of_raw hraw user line runner

open Rehearsal

/-- A script with a placeholder that the options know, in raw mode. -/
def rawScript : Context :=
  let env : Environment :=
    { name := "dev", host := "dbhost", port := none, user := "sa", password := "secret",
      platform := .mssql, company := "101", language := "1", root := "/sql", rawMode := true,
      named := true }
  { env
    options := { env, maxAge := 0, dictionary := some ⟨[("&users&", "sbnmaster..users")]⟩ }
    files := { entries := [(["a.sql"], .file (Utf8.encode
      "insert &users&\r\nvalues (@sequence@)\ngo\nexit\n") 0)] } }

theorem raw_mode_ignores_options_rawScript :
    let vars : RunVariables :=
      { source := "/a.sql", changelog := true, sequence := some ⟨1, 1⟩ }
    let unbuilt : OptionSet := { env := rawScript.env, maxAge := 0 }
    let asked := fun x : Exec Outcome => (x.run.exec MemoryServer.host {}).2.log.reverse
    rawScript.env.rawMode = true ∧ rawScript.options.resolveWord "&users&" = "sbnmaster..users" ∧
      asked (Script.run (rawScript.withOptions unbuilt) vars) =
        asked (Script.run (rawScript.withOptions rawScript.options) vars) ∧
      asked (Script.run rawScript vars) = [.connect none,
        .batch none "insert &users&\nvalues (@sequence@)\n", .disconnect] := by
  intro vars unbuilt asked
  have hsame := (raw_mode_ignores_options rawScript rfl).1 (.script vars) unbuilt rawScript.options
  exact ⟨rfl, by decide +kernel, congrArg asked hsame, by decide +kernel⟩

end SqlBuild
