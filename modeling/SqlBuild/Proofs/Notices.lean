import Mathlib.Data.List.Induction
import SqlBuild.Proofs.Lines
import SqlBuild.Sybase.Message

/-!
# Notices among the lines of a batch

Notices are taken out line by line, with a flag that says whether one is under way. So lines can be
cut anywhere, if the flag is carried over (`Sybase.withoutNotices_append`), and what it says is that
the last header is that of a notice and no blank line stands behind it
(`Sybase.noticeUnderWay_iff`).
-/

namespace SqlBuild

theorem Text.exists_trimStart {t u : Text} {c : Char} (h : Text.trim t = c :: u) :
    ∃ rest, Text.trimStart t = c :: rest := by
  obtain ⟨blanks, hblanks⟩ := Text.trimEnd_isPrefix (Text.trimStart t)
  rw [show Text.trimEnd (Text.trimStart t) = c :: u from h] at hblanks
  exact ⟨_, hblanks.symm⟩

namespace Sybase

/-- To the reading of messages a line with a mark is like any other. -/
theorem plain_of_trim {t u : Text} (h : Text.trim t = '_' :: u) :
    Header.ofLine? t = none ∧ Text.isAllBlank t = false ∧ isContextNotice t = false := by
  obtain ⟨rest, hrest⟩ := Text.exists_trimStart h
  refine ⟨?_, ?_, ?_⟩
  · have hafter : Text.after? "Msg " t = none := by
      cases hr : Text.after? "Msg " t with
      | none => rfl
      | some r =>
        rw [Text.after?_eq_some.1 hr] at hrest
        cases hrest
    unfold Header.ofLine?
    rw [hafter]
    rfl
  · refine Bool.eq_false_iff.2 fun hblank => ?_
    have hnil : Text.trimStart t = [] := by
      rw [Text.isAllBlank, List.all_eq_true] at hblank
      exact List.dropWhile_eq_nil_iff.2 hblank
    rw [hnil] at hrest
    cases hrest
  · unfold isContextNotice
    rw [hrest]
    rfl

/-- Whether a notice is under way behind a line; `skipping` says whether one was before. -/
def skipsBehind (skipping : Bool) (line : Text) : Bool :=
  match Header.ofLine? line with
  | some header => header.isNotice
  | none => skipping && !Text.isAllBlank line

/-- The last header is that of a notice, and no blank line has ended it. -/
def NoticeUnderWay (lines : List Text) : Prop :=
  ∃ before header after, lines = before ++ header :: after ∧
    (Header.ofLine? header).any Header.isNotice = true ∧
    ∀ t ∈ after, Header.ofLine? t = none ∧ Text.isAllBlank t = false

/-- A line begins a notice, or goes on with one. -/
theorem noticeUnderWay_concat {lines : List Text} {line : Text} :
    NoticeUnderWay (lines ++ [line]) ↔ (Header.ofLine? line).any Header.isNotice = true ∨
      (NoticeUnderWay lines ∧ Header.ofLine? line = none ∧ Text.isAllBlank line = false) := by
  constructor
  · rintro ⟨before, header, after, hlines, hheader, hafter⟩
    rcases List.eq_nil_or_concat' after with rfl | ⟨after, last, rfl⟩
    · obtain ⟨-, hlast⟩ := List.append_inj' hlines rfl
      exact .inl (List.head_eq_of_cons_eq hlast ▸ hheader)
    · rw [← List.cons_append, ← List.append_assoc] at hlines
      obtain ⟨hbefore, hlast⟩ := List.append_inj' hlines rfl
      obtain ⟨hafter, hend⟩ := List.forall_mem_append.1 hafter
      have hline := hend last (List.mem_singleton_self last)
      rw [← List.head_eq_of_cons_eq hlast] at hline
      exact .inr ⟨⟨before, header, after, hbefore, hheader, hafter⟩, hline⟩
  · rintro (hheader | ⟨⟨before, header, after, rfl, hheader, hafter⟩, hline⟩)
    · exact ⟨lines, line, [], rfl, hheader, by simp⟩
    · refine ⟨before, header, after ++ [line], by simp, hheader, ?_⟩
      exact List.forall_mem_append.2 ⟨hafter, List.forall_mem_singleton.2 hline⟩

/-- The reader of notices knows of one that is under way. -/
theorem noticeUnderWay_iff (lines : List Text) :
    NoticeUnderWay lines ↔ lines.foldl skipsBehind false = true := by
  induction lines using List.reverseRecOn with
  | nil => simp [NoticeUnderWay]
  | append_singleton lines line ih =>
    rw [noticeUnderWay_concat, ih, List.foldl_concat, skipsBehind]
    cases Header.ofLine? line <;> simp

instance (lines : List Text) : Decidable (NoticeUnderWay lines) :=
  decidable_of_iff _ (noticeUnderWay_iff lines).symm

/-- What a line leaves, and how it goes on behind it. -/
theorem withoutNotices_cons (skipping : Bool) (line : Text) (rest : List Text) :
    withoutNotices skipping (line :: rest) =
      withoutNotices skipping [line] ++ withoutNotices (skipsBehind skipping line) rest := by
  cases hline : Header.ofLine? line with
  | some header =>
    cases hnotice : header.isNotice <;> simp [withoutNotices, skipsBehind, hline, hnotice]
  | none =>
    cases skipping with
    | true => simp [withoutNotices, skipsBehind, hline]
    | false =>
      cases hnotice : isContextNotice line <;>
        simp [withoutNotices, skipsBehind, hline, hnotice]

theorem withoutNotices_append (before after : List Text) (skipping : Bool) :
    withoutNotices skipping (before ++ after) = withoutNotices skipping before ++
      withoutNotices (before.foldl skipsBehind skipping) after := by
  induction before generalizing skipping with
  | nil => rfl
  | cons line before ih =>
    rw [List.cons_append, withoutNotices_cons, ih, List.foldl_cons, ← List.append_assoc,
      ← withoutNotices_cons]

theorem withoutNotices_sublist (lines : List Text) (skipping : Bool) :
    (withoutNotices skipping lines).Sublist lines := by
  induction lines generalizing skipping with
  | nil => exact .slnil
  | cons line lines ih =>
    have hone : (withoutNotices skipping [line]).Sublist [line] := by
      simp only [withoutNotices]
      repeat' split
      all_goals simp
    rw [withoutNotices_cons]
    exact hone.append (ih _)

theorem interpret_of_unfailed {lines : List Text}
    (h : ∀ t ∈ lines, (Header.ofLine? t).any Header.isFailure = false) :
    interpret lines = .ok (Text.join "\n" (withoutNotices false lines)) := by
  have hnone : failure? lines = none := List.find?_eq_none.2 fun t ht => by simp [h t ht]
  rw [interpret, hnone]

end Sybase

end SqlBuild
