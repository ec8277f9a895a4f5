import SqlBuild.Proofs.Lines
import SqlBuild.Proofs.SessionPlays
import SqlBuild.Run.Upgrade

/-!
# The completion of an upgrade

The statement that records an upgrade starts with a word of its own, whatever the number and the
options are, so at least one batch is there to be sent (`sendable_completion_ne_nil`). Recording
asks for a session and sends these batches (`completes_of_record`). It either ends in cancellation
or leaves exactly one of two traces (`plays_record`): the server took every batch of the statement,
or an error was reported. It never tells its caller which.
-/

namespace SqlBuild

namespace Batch

/-- Whether a text can be told from the words `go`, `exit` and `quit` by its first character. -/
def IsDistinct (c : Char) : Prop :=
  isBlank c = false ∧ c.toLower ≠ 'g' ∧ c.toLower ≠ 'e' ∧ c.toLower ≠ 'q'

theorem not_isTerminator {c : Char} (h : IsDistinct c) (t : Text) : isTerminator (c :: t) = false := by
  rw [isTerminator, Text.trim_cons h.1]
  refine beq_eq_false_iff_ne.2 fun heq => h.2.1 ?_
  exact (List.cons.inj heq).1

theorem not_isExit {c : Char} (h : IsDistinct c) (t : Text) : isExit (c :: t) = false := by
  rw [isExit, Text.trim_cons h.1, Bool.or_eq_false_iff]
  constructor
  · refine beq_eq_false_iff_ne.2 fun heq => h.2.2.1 ?_
    exact (List.cons.inj heq).1
  · refine beq_eq_false_iff_ne.2 fun heq => h.2.2.2 ?_
    exact (List.cons.inj heq).1

theorem sendable_split_ne_nil {c : Char} (h : IsDistinct c) (t : Text) :
    sendable (split (c :: t)) ≠ [] := by
  obtain ⟨line, rest, hl⟩ := Text.lines_cons h.1 t
  obtain ⟨group, more, hg⟩ :=
    List.exists_cons_of_ne_nil (List.splitOnP_ne_nil isTerminator rest)
  have hgroups : groups ((c :: line) :: rest) = ((c :: line) :: group) :: more := by
    rw [groups, List.splitOnP_cons_eq_if_modifyHead, not_isTerminator h, hg]
    rfl
  have hblank : Text.isAllBlank (Text.unlines ((c :: line) :: group)) = false := by
    simp [Text.unlines, Text.isAllBlank, h.1]
  rw [split, hl, hgroups, List.map_cons, List.filter_cons_of_pos (by simp [hblank]), sendable,
    List.takeWhile_cons]
  have hexit : isExit (Text.unlines ((c :: line) :: group)) = false := not_isExit h _
  rw [hexit]
  simp

end Batch

namespace Dictionary

theorem resolveWithin_cons {c : Char} (h : c ≠ '&') (d : Dictionary) :
    ∀ (n : Nat) (t : Text), ∃ t', d.resolveWithin n (c :: t) = c :: t'
  | 0, t => ⟨t, rfl⟩
  | n + 1, t => by
    have hpass : d.pass (c :: t) = c :: d.pass t := by rw [pass, passFrom, if_neg h, pass]
    unfold resolveWithin
    split
    · rw [hpass]
      dsimp only
      split
      · exact ⟨t, rfl⟩
      · exact resolveWithin_cons h d n _
    · exact ⟨t, rfl⟩

end Dictionary

theorem Context.resolveWord_cons (ctx : Context) {c : Char} (h : c ≠ '&') (t : Text) :
    ∃ t', ctx.resolveWord (c :: t) = c :: t' := by
  unfold Context.resolveWord Context.resolve
  split
  · exact ⟨t, rfl⟩
  · show ∃ t', ctx.options.resolveWord (c :: t) = c :: t'
    unfold OptionSet.resolveWord
    split
    · exact Dictionary.resolveWithin_cons h _ _ t
    · exact ⟨t, rfl⟩

namespace Upgrade

/-- The script that records an upgrade. -/
def completionScript (ctx : Context) (id : Text) : Text := ctx.resolveWord (completion id) ++ "\ngo\n"

/-- The server took every batch of a script. -/
def Accepted (sql : Text) (events : List Event) : Prop :=
  (sent events).map Prod.fst = Batch.sendable (Batch.split sql) ∧ ∀ b ∈ sent events, b.2.isOk = true

variable {ctx : Context}

theorem sendable_completion_ne_nil (ctx : Context) (id : Text) :
    Batch.sendable (Batch.split (completionScript ctx id)) ≠ [] := by
  have hstart : ∃ t, completion id = 'u' :: t := ⟨_, rfl⟩
  obtain ⟨t, ht⟩ := hstart
  obtain ⟨t', ht'⟩ := ctx.resolveWord_cons (c := 'u') (by decide) t
  rw [completionScript, ht, ht']
  exact Batch.sendable_split_ne_nil ⟨by decide, by decide, by decide, by decide⟩ _

/-- What the user is told once the batches of a completion are through. -/
def tellRecorded (id : Text) : Except ExecError Batch.Report → Exec Unit
  | .ok report =>
    if report.success then pure ()
    else
      liftM (Run.reportError ("Upgrade " ++ id ++ " ran but its completion was not recorded: " ++
        Text.trim report.output))
  | .error e => do
    let _ ← Exec.foldError e

theorem record_eq (ctx : Context) (id : Text) (database : Option Text) :
    record ctx id database =
      liftM (Batch.runOnce (completionScript ctx id) database).run >>= tellRecorded id := by
  unfold record
  refine congrArg (_ >>= ·) (funext fun r => ?_)
  cases r <;> rfl

theorem plays_tellRecorded {id : Text} {r : Except ExecError Batch.Report} {events : List Event}
    {result : Except ExecError Unit} (h : (tellRecorded id r).Plays events result) :
    (r = .error .cancelled ∧ events = [] ∧ result = .error .cancelled) ∨
      (r ≠ .error .cancelled ∧ result = .ok () ∧ Quiet events ∧
        (Reported events ↔ ∀ report, r = .ok report → report.success = false)) := by
  cases r with
  | ok report =>
    refine .inr ⟨by simp, ?_⟩
    rw [tellRecorded] at h
    split at h
    · rename_i hs
      obtain ⟨rfl, rfl⟩ := h
      exact ⟨rfl, quiet_nil, by simp [hs]⟩
    · rename_i hs
      obtain ⟨rfl, hq, hr⟩ := Exec.plays_reportError h
      exact ⟨rfl, hq, iff_of_true hr (by simpa using hs)⟩
  | error e =>
    rcases Exec.plays_bind.1 h with ⟨_, during, last, rfl, hf, hp⟩ | ⟨e', hf, rfl⟩
    · obtain ⟨rfl, rfl⟩ := hp
      obtain ⟨-, -, hcon⟩ | ⟨hne, -, hq, hr⟩ := Exec.plays_foldError hf
      · cases hcon
      · rw [List.append_nil]
        exact .inr ⟨by simpa using hne, rfl, hq, iff_of_true hr (by simp)⟩
    · obtain ⟨rfl, rfl, heq⟩ | ⟨-, hcon, -⟩ := Exec.plays_foldError hf
      · rw [Except.error.inj heq]
        exact .inl ⟨rfl, rfl, rfl⟩
      · cases hcon

/-- Recording tries to open a session, sends the batches of its statement and nothing else, and
reports an error exactly when the server did not take them all. -/
theorem plays_record {id : Text} {database : Option Text} {events : List Event}
    {result : Except ExecError Unit} (h : (record ctx id database).Plays events result) :
    ∃ reply rest, events = ⟨.connect database, reply⟩ :: rest ∧
      (sent events).map Prod.fst <+: Batch.sendable (Batch.split (completionScript ctx id)) ∧
      (result = .error .cancelled ∨
        (result = .ok () ∧ (Accepted (completionScript ctx id) events ↔ ¬ Reported events))) := by
  rw [record_eq] at h
  obtain ⟨r, before, after, rfl, hrun, hrest⟩ := Exec.plays_lift_bind h
  have hquiet : Quiet after := by
    obtain ⟨-, rfl, -⟩ | ⟨-, -, hq, -⟩ := plays_tellRecorded hrest
    · exact quiet_nil
    · exact hq
  have hsent : sent (before ++ after) = sent before := by
    rw [sent_append, hquiet.sent_eq, List.append_nil]
  rcases Batch.plays_runOnce hrun with ⟨e, rfl, rfl⟩ | ⟨rest, rfl, hsilent, -, hend⟩
  · -- No session was opened, so nothing is sent, and a statement is never without batches.
    refine ⟨.error e, after, rfl, by rw [hsent]; exact List.nil_prefix, ?_⟩
    obtain ⟨-, -, rfl⟩ | ⟨-, rfl, -, hr⟩ := plays_tellRecorded hrest
    · exact .inl rfl
    · refine .inr ⟨rfl, iff_of_false (fun ha => ?_) (fun hn => ?_)⟩
      · refine sendable_completion_ne_nil ctx id ?_
        rw [← ha.1, hsent]
        rfl
      · exact hn (reported_append.2 (.inr (hr.2 (by simp))))
  · have hrest' : sent (⟨.connect database, .ok ()⟩ :: rest ++ after) = sent rest := hsent
    refine ⟨.ok (), rest ++ after, rfl, ?_⟩
    rw [Accepted, hrest']
    obtain ⟨report, rfl, hfst, hok⟩ | ⟨rfl, -, hfst⟩ := hend
    · obtain ⟨hcon, -⟩ | ⟨-, rfl, -, hr⟩ := plays_tellRecorded hrest
      · cases hcon
      have hall : (∀ b ∈ sent rest, b.2.isOk = true) ↔ report.success = true := by
        rw [hok, List.all_map, List.all_eq_true]
        rfl
      have hreported : Reported after ↔ report.success = false := by
        rw [hr]
        simp
      refine ⟨hfst ▸ List.prefix_refl _, .inr ⟨rfl, ?_⟩⟩
      rw [reported_append, reported_cons, hreported, hall]
      simp [hsilent, hfst]
    · refine ⟨hfst, .inl ?_⟩
      obtain ⟨-, -, rfl⟩ | ⟨hne, -⟩ := plays_tellRecorded hrest
      · rfl
      · exact absurd rfl hne

end Upgrade

end SqlBuild
