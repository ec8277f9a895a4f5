import SqlBuild.Proofs.BuildParts
import SqlBuild.Proofs.PasswordSecrecy
import SqlBuild.Proofs.UpgradeGate

/-!
# The audit entry comes once

A command that is not audited does the same whoever runs it and however it was typed, and every audit
statement names its user: such a command has no use for one. The commands a build starts are never
audited, so of a build nothing is left of the audit but the entry in front (`audited_once`). An
upgrade writes its entry between the check and the file.
-/

namespace SqlBuild

/-- The same for another user. -/
def Context.withUser (ctx : Context) (user : Text) : Context :=
  { ctx with env := { ctx.env with user } }

/-- The same without an audit entry, typed in another way. -/
def RunVariables.unaudited (vars : RunVariables) (commandLine : Text) : RunVariables :=
  { vars with
    changelog := false
    commandLine }

theorem Audit.statement_injective (program line : Text) :
    Function.Injective (statement program line) :=
  fun _ _ h => literal_inj (List.append_cancel_left h)

variable {ctx : Context} {vars : RunVariables} (user line : Text)

namespace Script

theorem run_withUser (h : vars.changelog = false) :
    run (ctx.withUser user) vars = run ctx vars := by
  have hsource : runSource (ctx.withUser user) vars = runSource ctx vars := by
    have hno : ∀ ctx, audit? ctx "runsql" vars = none := by
      intro ctx
      rw [audit?, h]
      rfl
    unfold runSource
    rw [hno, hno]
    rfl
  unfold run
  rw [hsource]

theorem forDatabases_withUser (buildLine : BuildLine) (source : Text) :
    ∀ (databases : List (Option Text)) (total : Outcome),
      forDatabases (ctx.withUser user) vars buildLine source databases total =
        forDatabases ctx vars buildLine source databases total
  | [], _ => rfl
  | database :: rest, total => by
    rw [forDatabases, forDatabases, run_withUser user rfl]
    exact congrArg _ (funext fun outcome => forDatabases_withUser buildLine source rest _)

theorem runLine_withUser (buildLine : BuildLine) :
    runLine (ctx.withUser user) vars buildLine = runLine ctx vars buildLine := by
  unfold runLine
  split
  · rfl
  · exact forDatabases_withUser user buildLine _ _ _

end Script

namespace Upgrade

namespace Walk

theorem embedded_unaudited (w : Walk) (command : Text) :
    w.embedded (ctx.withUser user) (vars.unaudited line) command = w.embedded ctx vars command := by
  have hparsed : ParsedLine.ofLine (ctx.withUser user).resolveWord (ctx.withUser user).env.root
      command = ParsedLine.ofLine ctx.resolveWord ctx.env.root command := rfl
  unfold embedded
  rw [hparsed]
  cases ParsedLine.ofLine ctx.resolveWord ctx.env.root command with
  | command found =>
    dsimp only
    rw [Script.runLine_withUser]
    rfl
  | _ => rfl

theorem through_unaudited : ∀ (lines : List Text) (w : Walk),
    through (ctx.withUser user) (vars.unaudited line) w lines = through ctx vars w lines
  | [], _ => rfl
  | text :: rest, w => by
    have ih := through_unaudited rest
    rw [through, through]
    refine bind_congr fun _ => ?_
    cases UpgradeLine.ofLine text with
    | exit => rfl
    | use database => exact bind_congr fun _ => ih _
    | embedded command =>
      refine bind_congr fun w => ?_
      rw [embedded_unaudited]
      exact bind_congr fun _ => ih _
    | rename => exact bind_congr fun w => bind_congr fun _ => ih _
    | terminator => exact bind_congr fun _ => ih _
    | sql => exact ih _

end Walk

/-- What is left of an upgrade file when its audit entry is taken away. -/
def applyRead (ctx : Context) (vars : RunVariables) (id path : Text) : Exec Outcome :=
  match ctx.files.readLossy path with
  | .ok content => applyText ctx vars id content
  | .error cause => Exec.failWith (readFailure path cause)

theorem applyFile_entry (id path : Text) : applyFile ctx vars id path =
    Audit.writeIfDue ctx "i_run_upgrade" vars >>= fun _ => applyRead ctx vars id path := by
  rw [applyFile, Audit.writeIfDue, Audit.isDue]
  split
  · rfl
  · exact (pure_bind _ _).symm

theorem applyRead_unaudited (id path : Text) :
    applyRead (ctx.withUser user) (vars.unaudited line) id path = applyRead ctx vars id path := by
  have htext : ∀ content, applyText (ctx.withUser user) (vars.unaudited line) id content =
      applyText ctx vars id content := by
    intro content
    unfold applyText
    rw [Walk.through_unaudited]
    rfl
  unfold applyRead
  simp only [htext]
  rfl

theorem applyFile_unaudited (id path : Text) :
    applyFile (ctx.withUser user) (vars.unaudited line) id path = applyRead ctx vars id path := by
  rw [applyFile_entry, applyRead_unaudited]
  rfl

theorem applyChecked_unaudited (id path : Text) :
    applyChecked (ctx.withUser user) (vars.unaudited line) id path =
      applyChecked ctx (vars.unaudited []) id path := by
  unfold applyChecked
  refine bind_congr fun status => ?_
  match status with
  | .error _ => rfl
  | .ok .unknown => rfl
  | .ok .applied => rfl
  | .ok .pending =>
    exact (applyFile_unaudited user line id path).trans
      (applyFile_unaudited ctx.env.user [] id path).symm

theorem run_unaudited :
    run (ctx.withUser user) (vars.unaudited line) = run ctx (vars.unaudited []) := by
  have hfile : ∀ id path, applyFile (ctx.withUser user) (vars.unaudited line) id path =
      applyFile ctx (vars.unaudited []) id path := fun id path =>
    (applyFile_unaudited user line id path).trans
      (applyFile_unaudited ctx.env.user [] id path).symm
  unfold run
  simp only [hfile, applyChecked_unaudited]
  rfl

theorem run_eq_of_not_isDue (h : Audit.isDue ctx vars ≠ true) :
    run ctx vars = run ctx (vars.unaudited []) := by
  have hfile : ∀ id path,
      applyFile ctx vars id path = applyFile ctx (vars.unaudited []) id path := by
    intro id path
    rw [applyFile_entry, Audit.writeIfDue, if_neg h]
    exact (applyFile_unaudited ctx.env.user [] id path).symm
  have hchecked : ∀ id path,
      applyChecked ctx vars id path = applyChecked ctx (vars.unaudited []) id path := by
    intro id path
    unfold applyChecked
    simp only [hfile]
    rfl
  unfold run
  simp only [hfile, hchecked]
  rfl

end Upgrade

namespace Compiler

theorem loadAll_withUser (kind : CompilerKind) : ∀ loads : List WorkTable,
    loadAll (ctx.withUser user) kind loads = loadAll ctx kind loads
  | [] => rfl
  | _ :: rest => by
    rw [loadAll, loadAll, loadAll_withUser kind rest]
    rfl

theorem run_withUser (kind : CompilerKind) : run (ctx.withUser user) kind = run ctx kind := by
  have hplan : kind.plan (ctx.withUser user) = kind.plan ctx := by cases kind <;> rfl
  have hfollow : ∀ plan, follow (ctx.withUser user) kind plan = follow ctx kind plan := by
    intro plan
    unfold follow apply
    rw [loadAll_withUser]
    rfl
  unfold run
  rw [hplan]
  simp only [hfollow]
  rfl

end Compiler

namespace Build

theorem dispatch_withUser (enter : RunVariables → Exec Outcome) (found : BuildLine) :
    dispatch (ctx.withUser user) vars enter found = dispatch ctx vars enter found := by
  have hcompiler : ∀ kind, Compiler.run (ctx.withUser user) kind = Compiler.run ctx kind :=
    Compiler.run_withUser user
  unfold dispatch runUpgradeLine runCompilerLine
  rw [Script.runLine_withUser]
  simp only [hcompiler]
  cases found.command with
  | runUpgrade =>
    cases found.source with
    | none => rfl
    | some source =>
      show Upgrade.run (ctx.withUser user) ((upgradeVariables vars found source).unaudited []) =
        Upgrade.run ctx ((upgradeVariables vars found source).unaudited [])
      exact Upgrade.run_unaudited user []
  | _ => rfl

theorem runLines_withUser (enter : RunVariables → Exec Outcome) :
    ∀ (lines : List Text) (total : Outcome), runLines (ctx.withUser user) vars enter lines total =
      runLines ctx vars enter lines total
  | [], _ => rfl
  | text :: rest, total => by
    have ih := runLines_withUser enter rest
    have hparsed : ParsedLine.ofLine (ctx.withUser user).resolveWord (ctx.withUser user).env.root
        text = ParsedLine.ofLine ctx.resolveWord ctx.env.root text := rfl
    rw [runLines, runLines, hparsed]
    refine bind_congr fun _ => ?_
    cases ParsedLine.ofLine ctx.resolveWord ctx.env.root text with
    | command found =>
      dsimp only
      rw [dispatch_withUser]
      exact bind_congr fun outcome => ih _
    | _ => exact ih total

theorem runScript_withUser : ∀ (depth : Nat) (stack : List Text) (vars : RunVariables),
    runScript (ctx.withUser user) depth stack vars = runScript ctx depth stack vars
  | 0, _, _ => rfl
  | depth + 1, stack, vars => by
    have ih : ∀ stack, runScript (ctx.withUser user) depth stack = runScript ctx depth stack :=
      fun stack => funext fun vars => runScript_withUser depth stack vars
    rw [runScript_succ, runScript_succ]
    simp only [ih, runLines_withUser]
    rfl

theorem runScript_unaudited (depth : Nat) (stack : List Text) :
    runScript ctx depth stack (vars.unaudited line) = runScript ctx depth stack vars := by
  rw [runScript_eq, runScript_eq]
  cases depth <;> rfl

theorem run_unaudited :
    run (ctx.withUser user) (vars.unaudited line) = run ctx (vars.unaudited []) := by
  unfold run
  rw [runScript_withUser, runScript_unaudited, runScript_unaudited]
  rfl

theorem run_eq_write : run ctx vars = if Audit.isDue ctx vars then do
      Audit.write ctx "runcreate" vars
      run ctx (vars.unaudited [])
    else run ctx (vars.unaudited []) := by
  have hrest : run ctx (vars.unaudited []) = do
      let outcome ← runScript ctx maxDepth [] vars
      liftM (Run.emit (summary outcome))
      return outcome := by
    unfold run
    rw [runScript_unaudited]
    rfl
  rw [hrest, run, Audit.isDue]

end Build

end SqlBuild
