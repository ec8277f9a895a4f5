import SqlBuild.Proofs.BatchOutput
import SqlBuild.Proofs.Lines

/-!
# Messages that are taken for remarks

What the server prints and what the connection remarks on changes of the session come as events of
one kind. A message is shown in its place, or else the batch ends as if it had never come
(`SqlBuild.SqlServer.Reply.result_printed`); which of the two depends on how it starts and on
nothing around it.
-/

namespace SqlBuild

theorem isContextNotice_iff (line : Text) :
    isContextNotice line = true ↔ ∃ start ∈ contextNotices, start <+: Text.trimStart line := by
  simp [isContextNotice, Text.startsWith]

/-- What a batch printed, rejected or not. -/
def BatchResult.output : BatchResult → Text
  | .ok text => text
  | .error e => e.output

namespace SqlServer

/-- The text starts as a remark on a change of the session or as a notice of one. -/
def LooksLikeRemark (text : Text) : Prop :=
  (∃ start ∈ sessionRemarks, start <+: text) ∨
    ∃ start ∈ contextNotices, start <+: Text.trimStart text

theorem isRemark_iff (text : Text) : isRemark text = true ↔ LooksLikeRemark text := by
  rw [isRemark, Bool.or_eq_true, isContextNotice_iff]
  simp [LooksLikeRemark, Text.startsWith]

theorem Event.shown?_printed_of_not {text : Text} (h : ¬ LooksLikeRemark text) :
    (printed text).shown? = some text := by
  have hremark : isRemark text = false := by simpa using mt (isRemark_iff text).1 h
  simp [shown?, printed, hremark]

theorem Event.shown?_printed_of {text : Text} (h : LooksLikeRemark text) :
    (printed text).shown? = none := by
  simp [shown?, printed, (isRemark_iff text).2 h]

/-- An event that shows nothing leaves no trace among the pieces. -/
theorem Piece.ofArrivals_of_not_shown {event : Event} (h : event.shown? = none)
    (before after : List Arrival) :
    ofArrivals (before ++ .event event :: after) = ofArrivals (before ++ after) := by
  -- Only columns and rows take over the messages heard, so this arrival does not part them either.
  have hadd : ∀ a : Assembly, a.add (.event event) = a := by simp [Assembly.add, h]
  rw [ofArrivals, ofArrivals, List.foldl_append, List.foldl_cons, hadd, ← List.foldl_append]

theorem Reply.output_result (reply : Reply) :
    reply.result.output = Piece.renderAll (Piece.ofArrivals reply.arrivals) := by
  rw [result]
  cases reply.failure <;> rfl

/-- A message that the server prints is part of the output of its batch, between what began before
it and what began after it, unless it looks like a remark: then it is lost, and with it nothing
else. -/
theorem Reply.result_printed (before after : List Arrival) (text : Text)
    (failure : Option LinkError) :
    (¬ LooksLikeRemark text → ∃ earlier later,
      (Reply.mk (before ++ .event (.printed text) :: after) failure).result.output =
        Text.join "\n" ((earlier ++ .message text :: later).map Piece.render) ∧
      BeginAlike before earlier ∧ BeginAlike after later ∧
      text <:+: (Reply.mk (before ++ .event (.printed text) :: after) failure).result.output) ∧
    (LooksLikeRemark text →
      (Reply.mk (before ++ .event (.printed text) :: after) failure).result =
        (Reply.mk (before ++ after) failure).result) := by
  constructor
  · intro hremark
    obtain ⟨earlier, hbegun, halike⟩ := begun_append before (.event (.printed text) :: after)
    have houtput : (Reply.mk (before ++ .event (.printed text) :: after) failure).result.output =
        Text.join "\n" ((earlier ++ .message text :: begun after).map Piece.render) := by
      rw [output_result, Piece.ofArrivals_eq, hbegun, begun, Event.shown?_printed_of_not hremark]
      rfl
    refine ⟨earlier, begun after, houtput, halike, beginAlike_begun after, ?_⟩
    rw [houtput]
    exact Text.infix_join (by simp [Piece.render])
  · intro hremark
    rw [result, result, Piece.ofArrivals_of_not_shown (Event.shown?_printed_of hremark)]

/-- A message of the server about its backups starts like the remark that a transaction began. -/
theorem Reply.result_backup_message : ¬ ∀ (reply : Reply) (text : Text),
    .event (.printed text) ∈ reply.arrivals → isContextNotice text = false →
      text <:+: reply.result.output := by
  intro h
  have hshown := h ⟨[.event (.printed "Begin transaction log backup")], none⟩
    "Begin transaction log backup" List.mem_cons_self (by decide)
  have hlost : (Reply.mk [.event (.printed "Begin transaction log backup")] none).result =
      .ok [] := by decide
  rw [hlost] at hshown
  cases List.eq_nil_of_infix_nil hshown

end SqlServer

end SqlBuild
