import SqlBuild.Proofs.Locality
import SqlBuild.Proofs.UpgradeGate

/-!
# An upgrade is applied once

The check of an upgrade and its completion are built from two templates and resolved as a whole, but
a blank stands before the literal in both of them, so both end in the literal as it is resolved on
its own (`resolveWord_checkCall`, `resolveWord_completion`). A server that goes by these literals
refuses an upgrade whose completion it has taken, whatever it was asked in between.
-/

namespace SqlBuild

namespace Upgrade

/-- The call of a check procedure for a literal. -/
def callOf (procedure literal : Text) : Text := procedure ++ ' ' :: literal

/-- The update of a control table that carries a literal. -/
def updateOf (table literal : Text) : Text :=
  "update " ++ table ++ " set end_dt = getdate() where upgrade_no = " ++ literal

variable {ctx : Context} {vars : RunVariables} {table literal : Text}

theorem resolveWord_checkCall (h : ctx.Separates ' ') (id : Text) :
    ctx.resolveWord (checkCall id) =
      callOf (ctx.resolveWord "&i_upgrade_check&") (ctx.resolveWord (Audit.literal id)) := by
  have hcall : ("&i_upgrade_check& " : Text) = ("&i_upgrade_check&" : Text) ++ [' '] := rfl
  unfold checkCall callOf
  rw [hcall, List.append_assoc, List.singleton_append]
  exact Context.resolveWord_append_cons h (by decide) _ _

theorem resolveWord_completion (h : ctx.Separates ' ') (id : Text) :
    ctx.resolveWord (completion id) =
      updateOf (ctx.resolveWord "&ba_upgrades&") (ctx.resolveWord (Audit.literal id)) := by
  have hstart : ("update &ba_upgrades& set end_dt = getdate() where upgrade_no = " : Text) =
      ("update" : Text) ++ ' ' :: (("&ba_upgrades&" : Text) ++
        ' ' :: (("set end_dt = getdate() where upgrade_no =" : Text) ++ [' '])) := rfl
  have hupdate : ("update " : Text) = ("update" : Text) ++ [' '] := rfl
  have hset : (" set end_dt = getdate() where upgrade_no = " : Text) =
      ' ' :: (("set end_dt = getdate() where upgrade_no =" : Text) ++ [' ']) := rfl
  have hfirst : ctx.resolveWord ("update" : Text) = "update" :=
    Context.resolveWord_eq_self (by decide)
  have hrest : ctx.resolveWord ("set end_dt = getdate() where upgrade_no =" : Text) =
      "set end_dt = getdate() where upgrade_no =" := Context.resolveWord_eq_self (by decide)
  unfold completion updateOf
  rw [hstart, hupdate, hset]
  simp only [List.append_assoc, List.cons_append, List.nil_append,
    Context.resolveWord_append_cons h (show ' ' ≠ '&' by decide), hfirst, hrest]

/-- Somewhere in a history the server took an update that carries the literal. The update goes out
as a script, and is taken when all batches of the script are. -/
def Recorded (table literal : Text) (history : List Event) : Prop :=
  ∃ before during after, history = before ++ during ++ after ∧
    Accepted (updateOf table literal ++ "\ngo\n") during

theorem Recorded.append {history : List Event} (h : Recorded table literal history)
    (more : List Event) : Recorded table literal (history ++ more) := by
  obtain ⟨before, during, after, rfl, ha⟩ := h
  exact ⟨before, during, after ++ more, by simp, ha⟩

theorem Recorded.within {history : List Event} (h : Recorded table literal history)
    (before after : List Event) : Recorded table literal (before ++ history ++ after) := by
  obtain ⟨first, during, last, rfl, ha⟩ := h
  exact ⟨before ++ first, during, last ++ after, by simp, ha⟩

theorem sendable_updateOf (hline : '\n' ∉ updateOf table literal)
    (hreturn : '\r' ∉ updateOf table literal) :
    Batch.sendable (Batch.split (updateOf table literal ++ "\ngo\n")) =
      [updateOf table literal ++ "\n"] := by
  obtain ⟨t, ht⟩ : ∃ t, updateOf table literal = 'u' :: t := ⟨_, rfl⟩
  have hdistinct : Batch.IsDistinct 'u' := ⟨by decide, by decide, by decide, by decide⟩
  have hlines : Text.lines (updateOf table literal ++ "\ngo\n") = [updateOf table literal, "go"] := by
    have hscript : updateOf table literal ++ "\ngo\n" =
        Text.unlines [updateOf table literal, "go"] := by simp [Text.unlines]
    rw [hscript, Text.lines_unlines (by simpa using hline), List.map_cons,
      Text.dropReturn_eq_self hreturn]
    rfl
  have hgroups : Batch.groups [updateOf table literal, "go"] = [[updateOf table literal], []] := by
    rw [Batch.groups, List.splitOnP_cons_eq_if_modifyHead, ht, Batch.not_isTerminator hdistinct]
    rfl
  have hunlines : Text.unlines [updateOf table literal] = updateOf table literal ++ "\n" :=
    List.append_nil _
  have hblank : Text.isAllBlank (updateOf table literal ++ "\n") = false := by
    rw [ht]
    rfl
  have hexit : Batch.isExit (updateOf table literal ++ "\n") = false := by
    rw [ht]
    exact Batch.not_isExit hdistinct _
  rw [Batch.split, hlines, hgroups, List.map_cons, hunlines, List.filter_cons_of_pos (by rw [hblank]; rfl),
    Batch.sendable_cons hexit]
  rfl

/-- An update without line breaks is one batch. -/
theorem recorded_iff (hline : '\n' ∉ updateOf table literal)
    (hreturn : '\r' ∉ updateOf table literal) {history : List Event} :
    Recorded table literal history ↔
      ∃ output, ⟨.batch (updateOf table literal ++ "\n"), .ok output⟩ ∈ history := by
  constructor
  · rintro ⟨before, during, after, rfl, hbatches, hok⟩
    rw [sendable_updateOf hline hreturn] at hbatches
    obtain ⟨⟨sql, result⟩, hmem, rfl⟩ : ∃ b ∈ sent during, b.1 = updateOf table literal ++ "\n" :=
      List.mem_map.1 (hbatches ▸ List.mem_singleton_self _)
    have hresult := hok _ hmem
    obtain ⟨⟨action, reply⟩, hevent, hsent⟩ := List.mem_filterMap.1 hmem
    cases action with
    | batch text =>
      obtain ⟨rfl, rfl⟩ := Prod.mk.inj (Option.some.inj hsent)
      cases reply with
      | ok output =>
        exact ⟨output, List.mem_append_left _ (List.mem_append_right _ hevent)⟩
      | error e => cases hresult
    | _ => cases hsent
  · rintro ⟨output, hmem⟩
    obtain ⟨before, after, rfl⟩ := List.append_of_mem hmem
    refine ⟨before, [⟨.batch (updateOf table literal ++ "\n"), .ok output⟩], after, by simp, ?_, ?_⟩
    · rw [sendable_updateOf hline hreturn]
      rfl
    · intro b hb
      rw [List.mem_singleton.1 hb]
      rfl

/-- What the check procedure answers among `events`, which follow on `history`: 2 exactly when an
update with the same literal was taken before. -/
def AnswersByRecord (procedure table : Text) (history events : List Event) : Prop :=
  ∀ before literal (reply : Except ExecError Int) after,
    events = before ++ ⟨.returnCode (callOf procedure literal), reply⟩ :: after →
      (reply = .ok 2 ↔ Recorded table literal (history ++ before))

/-- A run of an upgrade in the course of which the server took its completion. -/
structure Completed (ctx : Context) (vars : RunVariables) (id : Text) (events : List Event) :
    Prop where
  number : number? vars = some id
  played : ∃ result, (run ctx vars).Plays events result
  taken : ∃ head tail, events = head ++ tail ∧ Accepted (completionScript ctx id) tail

theorem Completed.recorded {id : Text} {events : List Event} (h : Completed ctx vars id events)
    (hnames : ctx.Separates ' ') :
    Recorded (ctx.resolveWord "&ba_upgrades&") (ctx.resolveWord (Audit.literal id)) events := by
  obtain ⟨head, tail, rfl, ha⟩ := h.taken
  rw [completionScript, resolveWord_completion hnames] at ha
  exact ⟨head, tail, [], by simp, ha⟩

theorem sent_check {id : Text} {database : Option Text} {events : List Event}
    {status : Except ExecError Status} (h : (check ctx id database).Plays events status) :
    sent events = [] := by
  refine List.filterMap_eq_nil_iff.2 ?_
  rintro ⟨action, reply⟩ he
  have honly := only_check id database _ _ h _ he
  cases action with
  | batch sql => exact absurd rfl (honly sql)
  | _ => rfl

/-- A run whose upgrade has been recorded sends nothing and fails; it ends as cancelled when that is
what opening the session for its check came to. -/
theorem refused_of_recorded (hnames : ctx.Separates ' ') (hp : vars.preview = false) {id : Text}
    (hid : number? vars = some id) {history events : List Event}
    {result : Except ExecError Outcome} (h : (run ctx vars).Plays events result)
    (hserver : AnswersByRecord (ctx.resolveWord "&i_upgrade_check&")
      (ctx.resolveWord "&ba_upgrades&") history events)
    (hrecorded : Recorded (ctx.resolveWord "&ba_upgrades&") (ctx.resolveWord (Audit.literal id))
      history) :
    sent events = [] ∧ (result = .ok .failure ∧ Reported events ∨
      result = .error .cancelled ∧ events = [⟨.connect vars.database, .error .cancelled⟩]) := by
  rcases plays_run hp h with ⟨rfl, hq, hr⟩ | ⟨id', first, rest, status, hid', rfl, hc, hstatus⟩
  · exact ⟨hq.sent_eq, .inl ⟨rfl, hr⟩⟩
  · obtain rfl := Option.some.inj (hid.symm.trans hid')
    have hsent : ∀ {rest}, Quiet rest → sent (first ++ rest) = [] := by
      intro rest hq
      rw [sent_append, sent_check hc, hq.sent_eq]
      rfl
    rcases plays_check_session hc with ⟨e, rfl, rfl⟩ | ⟨answer, more, rfl, rfl⟩
    · rcases hstatus with ⟨he, rfl, rfl⟩ | ⟨-, -, rfl, hq, hr⟩ | hcon
      · rw [Except.error.inj he]
        exact ⟨rfl, .inr ⟨rfl, rfl⟩⟩
      · exact ⟨hsent hq, .inl ⟨rfl, reported_append.2 (.inr hr)⟩⟩
      · cases hcon
    · have happlied : answer = .ok 2 := by
        refine (hserver [⟨.connect vars.database, .ok ()⟩] (ctx.resolveWord (Audit.literal id))
          answer (more ++ rest) ?_).2 (hrecorded.append _)
        rw [← resolveWord_checkCall hnames]
        rfl
      rw [happlied] at hstatus
      rcases hstatus with ⟨hcon, -, -⟩ | ⟨-, -, rfl, hq, hr⟩ | hcon
      · cases hcon
      · exact ⟨hsent hq, .inl ⟨rfl, reported_append.2 (.inr hr)⟩⟩
      · cases hcon

theorem resolveWord_congr {ctx' : Context} (hraw : ctx'.env.rawMode = ctx.env.rawMode)
    (hmap : ctx'.options.dictionary = ctx.options.dictionary) :
    ctx'.resolveWord = ctx.resolveWord := by
  funext t
  unfold Context.resolveWord Context.resolve OptionSet.resolve OptionSet.resolveWord
  rw [hraw, hmap]

/-- The check and the completion of an upgrade end in one literal. So once the server has taken the
completion in a run of the upgrade, every later run with the same options sends nothing and fails,
whatever happened before that run and in between. -/
theorem applied_once (hnames : ctx.Separates ' ') (id : Text) :
    ctx.resolveWord (checkCall id) =
        callOf (ctx.resolveWord "&i_upgrade_check&") (ctx.resolveWord (Audit.literal id)) ∧
      ctx.resolveWord (completion id) =
        updateOf (ctx.resolveWord "&ba_upgrades&") (ctx.resolveWord (Audit.literal id)) ∧
      ∀ (past first between later : List Event) (vars vars' : RunVariables) (ctx' : Context)
        (result : Except ExecError Outcome),
        Completed ctx vars id first →
        ctx'.env.rawMode = ctx.env.rawMode → ctx'.options.dictionary = ctx.options.dictionary →
        number? vars' = some id → vars'.preview = false → (run ctx' vars').Plays later result →
        AnswersByRecord (ctx.resolveWord "&i_upgrade_check&") (ctx.resolveWord "&ba_upgrades&")
          (past ++ first ++ between) later →
        sent later = [] ∧ (result = .ok .failure ∧ Reported later ∨
          result = .error .cancelled ∧
            later = [⟨.connect vars'.database, .error .cancelled⟩]) := by
  refine ⟨resolveWord_checkCall hnames id, resolveWord_completion hnames id, ?_⟩
  intro past first between later vars vars' ctx' result hfirst hraw hmap hid hp hlater hserver
  have hresolve := resolveWord_congr hraw hmap
  have hnames' : ctx'.Separates ' ' := fun d hd => hnames d (hmap ▸ hd)
  have hrecorded := (hfirst.recorded hnames).within past between
  rw [← hresolve] at hserver hrecorded
  exact refused_of_recorded hnames' hp hid hlater hserver hrecorded

open Rehearsal

/-- Options that name the control table and the check, and a value with a blank. -/
def controlled : Context :=
  { oneUpgrade with
    options := { oneUpgrade.options with
      dictionary := some ⟨[("&ba_upgrades&", "ctl..upgrades"),
        ("&i_upgrade_check&", "ctl..upgrade_check"), ("&x&", "y z")]⟩ } }

/-- An upgrade whose number has a quote, a blank and a placeholder in it. -/
def quoted : RunVariables := { source := "/sct_1.sql", upgradeNumber := some "o'n &x&" }

def quotedRun : Exec Outcome := run controlled quoted

theorem separates_controlled : controlled.Separates ' ' := by
  intro d hd e he
  obtain rfl := Option.some.inj hd
  simp only [List.mem_cons, List.not_mem_nil, or_false] at he
  rcases he with rfl | rfl | rfl <;> decide

theorem completed_quoted :
    Completed controlled quoted "o'n &x&" (quotedRun.run.trace MemoryServer.host {}) where
  number := rfl
  played := ⟨_, Run.plays_exec MemoryServer.host quotedRun.run {}⟩
  taken := by
    refine ⟨_, _, (List.take_append_drop 11 _).symm, rfl, ?_⟩
    exact List.forall_mem_singleton.2 rfl

/-- The server in memory after the first run. -/
def quotedApplied : MemoryServer := (quotedRun.run.exec MemoryServer.host {}).2

theorem answersByRecord_quoted :
    AnswersByRecord (controlled.resolveWord "&i_upgrade_check&")
      (controlled.resolveWord "&ba_upgrades&") ([] ++ quotedRun.run.trace MemoryServer.host {} ++ [])
      (quotedRun.run.trace MemoryServer.host quotedApplied) := by
  rintro (_ | ⟨e, _ | ⟨e', before⟩⟩) literal reply after h
  · cases h
  · have hsecond : some (⟨.returnCode (callOf (controlled.resolveWord "&i_upgrade_check&")
        (controlled.resolveWord (Audit.literal "o'n &x&"))), .ok 2⟩ : Event) =
        some ⟨.returnCode (callOf _ literal), reply⟩ := congrArg (·[1]?) h
    obtain ⟨haction, hreply⟩ := Event.mk.inj (Option.some.inj hsecond)
    obtain rfl := (List.cons.inj (List.append_cancel_left (Action.returnCode.inj haction))).2
    obtain rfl := eq_of_heq hreply
    exact iff_of_true rfl (((completed_quoted.recorded separates_controlled).within [] []).append _)
  · let isOther : Event → Bool := fun e => match e.action with
      | .returnCode _ => false
      | _ => true
    have hall : ((quotedRun.run.trace MemoryServer.host quotedApplied).drop 2).all isOther = true := rfl
    rw [h] at hall
    simp [isOther] at hall

theorem applied_once_quoted :
    sent (quotedRun.run.trace MemoryServer.host quotedApplied) = [] ∧
      ((quotedRun.run.exec MemoryServer.host quotedApplied).1 = .ok .failure ∧
          Reported (quotedRun.run.trace MemoryServer.host quotedApplied) ∨
        (quotedRun.run.exec MemoryServer.host quotedApplied).1 = .error .cancelled ∧
          quotedRun.run.trace MemoryServer.host quotedApplied =
            [⟨.connect none, .error .cancelled⟩]) :=
  (applied_once separates_controlled "o'n &x&").2.2 [] _ [] _ quoted quoted controlled _
    completed_quoted rfl rfl rfl rfl (Run.plays_exec MemoryServer.host quotedRun.run quotedApplied)
    answersByRecord_quoted

end Upgrade

end SqlBuild
