import Mathlib.Data.List.DropRight
import SqlBuild.Text.Basic

/-!
# Lines and the blanks at the end of texts

Lines that were each followed by a line feed are read back, up to a carriage return at the end of a
line (`lines_unlines`). Such a carriage return is a blank, and blanks at the end of a text are lost
on `trimEnd` however many there are.
-/

namespace SqlBuild

theorem prefix_infix_of_splitOnP {α : Type} {p : α → Bool} : ∀ {l first : List α}
    {rest : List (List α)}, l.splitOnP p = first :: rest →
      first <+: l ∧ ∀ piece ∈ rest, piece <:+: l
  | [], first, rest, h => by
    rw [List.splitOnP_nil] at h
    obtain ⟨rfl, rfl⟩ := List.cons.inj h
    simp
  | a :: l, first, rest, h => by
    obtain ⟨next, others, hl⟩ := List.exists_cons_of_ne_nil (List.splitOnP_ne_nil p l)
    obtain ⟨hnext, hothers⟩ := prefix_infix_of_splitOnP hl
    have hback : ∀ piece, piece <:+: l → piece <:+: a :: l := fun piece h => h.trans
      (List.suffix_cons a l).isInfix
    rw [List.splitOnP_cons_eq_if_modifyHead, hl] at h
    split at h
    · obtain ⟨rfl, rfl⟩ := List.cons.inj h
      refine ⟨List.nil_prefix, fun piece hp => hback _ ?_⟩
      rcases List.mem_cons.1 hp with rfl | hp
      · exact hnext.isInfix
      · exact hothers _ hp
    · obtain ⟨rfl, rfl⟩ := List.cons.inj h
      exact ⟨(List.prefix_cons_inj a).2 hnext, fun piece hp => hback _ (hothers _ hp)⟩

/-- A piece of a list that is cut at some of its members is a stretch of the list. -/
theorem infix_of_mem_splitOnP {α : Type} {p : α → Bool} {l piece : List α}
    (h : piece ∈ l.splitOnP p) : piece <:+: l := by
  obtain ⟨first, rest, hl⟩ := List.exists_cons_of_ne_nil (List.splitOnP_ne_nil p l)
  obtain ⟨hfirst, hrest⟩ := prefix_infix_of_splitOnP hl
  rw [hl] at h
  rcases List.mem_cons.1 h with rfl | h
  · exact hfirst.isInfix
  · exact hrest _ h

namespace Text

theorem dropEndWhile_cons {p : Char → Bool} {c : Char} (h : p c = false) (t : Text) :
    dropEndWhile p (c :: t) = c :: dropEndWhile p t := by
  unfold dropEndWhile
  rw [List.reverse_cons, List.dropWhile_append]
  split
  · rename_i hnil
    rw [List.isEmpty_iff.1 hnil]
    simp [h]
  · simp

theorem dropEndWhile_append {p : Char → Bool} {dropped : Text} (h : ∀ c ∈ dropped, p c = true)
    (t : Text) : dropEndWhile p (t ++ dropped) = dropEndWhile p t := by
  unfold dropEndWhile
  rw [List.reverse_append, List.dropWhile_append_of_pos fun c hc => h c (List.mem_reverse.1 hc)]

theorem dropEndWhile_of_getLast? {p : Char → Bool} {t : Text}
    (h : ∀ c ∈ t.getLast?, p c = false) : dropEndWhile p t = t := by
  unfold dropEndWhile
  cases hr : t.reverse with
  | nil => simpa using hr.symm
  | cons c rest =>
    have hc : p c = false := h c (by rw [← List.head?_reverse, hr]; rfl)
    rw [List.dropWhile_cons_of_neg (by simp [hc]), ← hr, List.reverse_reverse]

theorem dropEndWhile_eq_self {p : Char → Bool} {t : Text} (h : ∀ c ∈ t, p c = false) :
    dropEndWhile p t = t :=
  dropEndWhile_of_getLast? fun c hc => h c (List.mem_of_getLast? hc)

theorem of_getLast?_dropEndWhile {p : Char → Bool} {t : Text} {c : Char}
    (h : c ∈ (dropEndWhile p t).getLast?) : p c = false := by
  have hhead := List.head?_dropWhile_not p t.reverse
  rw [dropEndWhile, List.getLast?_reverse] at h
  rw [Option.mem_def.1 h] at hhead
  exact hhead

theorem dropReturn_eq_self {t : Text} (h : '\r' ∉ t) : dropReturn t = t :=
  if_neg fun hlast => h (List.mem_of_getLast? hlast)

theorem trim_cons {c : Char} (h : isBlank c = false) (t : Text) : trim (c :: t) = c :: trimEnd t := by
  rw [trim, trimStart, List.dropWhile_cons_of_neg (by simp [h])]
  exact dropEndWhile_cons h t

/-- A text that starts with a visible character has a first line that does. -/
theorem lines_cons {c : Char} (h : isBlank c = false) (t : Text) :
    ∃ line rest, lines (c :: t) = (c :: line) :: rest := by
  have hfeed : c ≠ '\n' := by
    rintro rfl
    exact absurd h (by decide)
  have hreturn : c ≠ '\r' := by
    rintro rfl
    exact absurd h (by decide)
  obtain ⟨piece, pieces, hp⟩ := List.exists_cons_of_ne_nil (List.splitOn_ne_nil '\n' t)
  have hsplit : (c :: t).splitOn '\n' = (c :: piece) :: pieces := by
    rw [List.splitOn_cons_eq_if_modifyHead, if_neg (by simpa using hfeed), hp]
    rfl
  rw [lines, hsplit]
  cases pieces with
  | nil => exact ⟨piece, [], by simp⟩
  | cons next pieces =>
    have hd : ∃ line, dropReturn (c :: piece) = c :: line := by
      unfold dropReturn
      split
      · rename_i hlast
        cases piece with
        | nil => exact absurd (by simpa using hlast) hreturn
        | cons d piece => exact ⟨_, rfl⟩
      · exact ⟨piece, rfl⟩
    obtain ⟨line, hd⟩ := hd
    exact ⟨line, _, by rw [List.dropLast_cons_cons, List.map_cons, hd, List.cons_append]⟩

theorem trimEnd_append {t blanks : Text} (h : ∀ c ∈ blanks, isBlank c = true) :
    trimEnd (t ++ blanks) = trimEnd t :=
  dropEndWhile_append h t

theorem trimEnd_trimEnd (t : Text) : trimEnd (trimEnd t) = trimEnd t := by
  unfold trimEnd dropEndWhile
  rw [List.reverse_reverse, List.dropWhile_idempotent]

theorem dropEndWhile_isPrefix (p : Char → Bool) (t : Text) : dropEndWhile p t <+: t := by
  have hsuffix : t.reverse.dropWhile p <:+ t.reverse := List.dropWhile_suffix _
  simpa [dropEndWhile] using List.reverse_prefix.2 hsuffix

theorem trimEnd_isPrefix (t : Text) : trimEnd t <+: t := dropEndWhile_isPrefix isBlank t

theorem trimEnd_padEnd (n : Nat) (t : Text) : trimEnd (padEnd n t) = trimEnd t := by
  refine trimEnd_append fun c hc => ?_
  rw [List.eq_of_mem_replicate hc]
  decide

theorem trimEnd_append_singleton {c : Char} (h : isBlank c = false) (t : Text) :
    trimEnd (t ++ [c]) = t ++ [c] := by
  unfold trimEnd dropEndWhile
  rw [List.reverse_append, List.reverse_singleton, List.singleton_append,
    List.dropWhile_cons_of_neg (by simp [h])]
  simp

theorem trimEnd_append_cons {c : Char} (h : isBlank c = false) (s t : Text) :
    trimEnd (s ++ c :: t) = s ++ c :: trimEnd t := by
  have hreverse : (s ++ c :: t).reverse = t.reverse ++ c :: s.reverse := by simp
  have hstop : (c :: s.reverse).dropWhile isBlank = c :: s.reverse :=
    List.dropWhile_cons_of_neg (by simp [h])
  unfold trimEnd dropEndWhile
  rw [hreverse, List.dropWhile_append, hstop]
  split
  · rename_i hnil
    rw [List.isEmpty_iff.1 hnil]
    simp
  · simp

theorem dropReturn_trimEnd (t : Text) : dropReturn (trimEnd t) = trimEnd t := by
  refine if_neg fun hlast => ?_
  have hblank : isBlank '\r' = false := of_getLast?_dropEndWhile (Option.mem_def.2 hlast)
  cases hblank

theorem dropReturn_append {t : Text} (s : Text) (h : t ≠ []) :
    dropReturn (s ++ t) = s ++ dropReturn t := by
  have hlast : (s ++ t).getLast? = t.getLast? := by
    rw [List.getLast?_append, Option.or_of_isSome (by simpa using h)]
  unfold dropReturn
  rw [hlast]
  split
  · rw [List.dropLast_append_of_ne_nil h]
  · rfl

theorem trimEnd_dropReturn (t : Text) : trimEnd (dropReturn t) = trimEnd t := by
  unfold dropReturn
  split
  · rename_i h
    obtain ⟨s, rfl⟩ := List.getLast?_eq_some_iff.1 h
    rw [List.dropLast_concat]
    exact (trimEnd_append (by simp; decide)).symm
  · rfl

/-- Blanks at the end of a text are lost on trimming. -/
theorem trim_append {blanks : Text} (h : ∀ c ∈ blanks, isBlank c = true) (t : Text) :
    trim (t ++ blanks) = trim t := by
  rw [trim, trim, trimStart, trimStart, List.dropWhile_append]
  split
  · rename_i hnil
    rw [List.isEmpty_iff.1 hnil, List.dropWhile_eq_nil_iff.2 h]
  · exact trimEnd_append h

/-- Blanks in front are lost on trimming. -/
theorem trim_blanks_append {gap : Text} (h : ∀ c ∈ gap, isBlank c = true) (t : Text) :
    trim (gap ++ t) = trim t := by
  rw [trim, trimStart, List.dropWhile_append_of_pos h]
  rfl

theorem trim_dropReturn (t : Text) : trim (dropReturn t) = trim t := by
  unfold dropReturn
  split
  · rename_i h
    obtain ⟨s, rfl⟩ := List.getLast?_eq_some_iff.1 h
    rw [List.dropLast_concat]
    exact (trim_append (by simp; decide) s).symm
  · rfl

theorem exists_dropEndWhile_append (p : Char → Bool) (t : Text) :
    ∃ dropped, t = dropEndWhile p t ++ dropped ∧ ∀ c ∈ dropped, p c = true := by
  refine ⟨(t.reverse.takeWhile p).reverse, ?_,
    fun c hc => List.mem_takeWhile_imp (List.mem_reverse.1 hc)⟩
  rw [dropEndWhile, ← List.reverse_append, List.takeWhile_append_dropWhile, List.reverse_reverse]

theorem exists_trimEnd_append (t : Text) :
    ∃ blanks, t = trimEnd t ++ blanks ∧ ∀ c ∈ blanks, isBlank c = true :=
  exists_dropEndWhile_append isBlank t

theorem trim_trimEnd (t : Text) : trim (trimEnd t) = trim t := by
  obtain ⟨blanks, hsplit, hblank⟩ := exists_trimEnd_append t
  calc trim (trimEnd t)
      = trim (trimEnd t ++ blanks) := (trim_append hblank _).symm
    _ = trim t := by rw [← hsplit]

theorem isBlank_of_trimStart {t rest : Text} {c : Char} (h : trimStart t = c :: rest) :
    isBlank c = false := by
  have hhead := List.head?_dropWhile_not isBlank t
  rw [show t.dropWhile isBlank = c :: rest from h] at hhead
  exact hhead

theorem trimStart_trim (t : Text) : trimStart (trim t) = trim t := by
  cases hstart : trimStart t with
  | nil =>
    rw [trim, hstart]
    rfl
  | cons c rest =>
    have hc := isBlank_of_trimStart hstart
    have htrim : trim t = c :: trimEnd rest := by
      rw [trim, hstart]
      exact dropEndWhile_cons hc rest
    rw [htrim, trimStart, List.dropWhile_cons_of_neg (by simp [hc])]

theorem exists_trimStart_append (t : Text) :
    ∃ blanks, t = blanks ++ trimStart t ∧ ∀ c ∈ blanks, isBlank c = true :=
  ⟨t.takeWhile isBlank, List.takeWhile_append_dropWhile.symm, fun _ => List.mem_takeWhile_imp⟩

theorem head?_trimStart_trimEnd (t : Text) :
    (trimStart (trimEnd t)).head? = (trimStart t).head? := by
  obtain ⟨blanks, hsplit, hblank⟩ := exists_trimStart_append t
  rcases hstart : trimStart t with _ | ⟨c, rest⟩
  · rw [hstart, List.append_nil] at hsplit
    have hend : trimEnd t = [] := by
      rw [hsplit]
      exact trimEnd_append (t := []) hblank
    rw [hend]
    rfl
  · have hc := isBlank_of_trimStart hstart
    rw [hsplit, hstart, trimEnd_append_cons hc, trimStart,
      List.dropWhile_append_of_pos hblank, List.dropWhile_cons_of_neg (by simp [hc])]
    rfl

theorem mem_trim {t : Text} {c : Char} (hc : isBlank c = false) (h : c ∈ t) : c ∈ trim t := by
  have hstart : c ∈ trimStart t := by
    obtain ⟨blanks, hsplit, hblanks⟩ := exists_trimStart_append t
    rw [hsplit, List.mem_append] at h
    refine h.resolve_left fun hmem => ?_
    rw [hblanks c hmem] at hc
    cases hc
  obtain ⟨blanks, hsplit, hblanks⟩ := exists_trimEnd_append (trimStart t)
  rw [hsplit, List.mem_append] at hstart
  refine hstart.resolve_right fun hmem => ?_
  rw [hblanks c hmem] at hc
  cases hc

theorem trim_eq_nil_iff {t : Text} : trim t = [] ↔ ∀ c ∈ t, isBlank c = true := by
  constructor
  · intro h c hc
    by_contra hvisible
    have := mem_trim (Bool.eq_false_iff.2 hvisible) hc
    simp [h] at this
  · intro h
    exact trim_append h []

theorem startsWith_singleton (t : Text) (c : Char) : startsWith t [c] = (t.head? == some c) := by
  cases t with
  | nil => rfl
  | cons d t => simp [startsWith, List.isPrefixOf, BEq.comm]

theorem mem_join {sep : Text} {c : Char} : ∀ {ts : List Text},
    c ∈ join sep ts → c ∈ sep ∨ ∃ t ∈ ts, c ∈ t
  | [], h => by simp [join] at h
  | [t], h => .inr ⟨t, by simp, by simpa [join] using h⟩
  | t :: u :: ts, h => by
    simp only [join, List.intercalate_cons_cons, List.mem_append] at h
    rcases h with (h | h) | h
    · exact .inr ⟨t, by simp, h⟩
    · exact .inl h
    · rcases @mem_join sep c (u :: ts) h with h | ⟨v, hv, hc⟩
      · exact .inl h
      · exact .inr ⟨v, List.mem_cons_of_mem t hv, hc⟩

theorem infix_join {sep t : Text} : ∀ {ts : List Text}, t ∈ ts → t <:+: join sep ts
  | [u], h => by simp_all [join]
  | u :: v :: ts, h => by
    rw [join, List.intercalate_cons_cons]
    rcases List.mem_cons.1 h with rfl | h
    · exact ((List.prefix_append t sep).trans (List.prefix_append _ _)).isInfix
    · exact (infix_join h).trans (List.suffix_append _ _).isInfix

theorem splitOn_unlines : ∀ {ls : List Text}, (∀ l ∈ ls, '\n' ∉ l) →
    (unlines ls).splitOn '\n' = ls ++ [[]]
  | [], _ => rfl
  | l :: ls, h => by
    have hl := h l List.mem_cons_self
    rw [unlines, List.flatMap_cons, List.append_assoc, List.singleton_append,
      List.splitOn_append_cons_self_of_not_mem hl]
    exact congrArg (l :: ·) (splitOn_unlines fun m hm => h m (List.mem_cons_of_mem _ hm))

theorem lines_unlines {ls : List Text} (h : ∀ l ∈ ls, '\n' ∉ l) :
    lines (unlines ls) = ls.map dropReturn := by
  rw [lines, splitOn_unlines h]
  simp

/-- The lines of a text that was joined: a last line that is empty is none. -/
theorem lines_join {before : List Text} {last : Text} (h : ∀ l ∈ before ++ [last], '\n' ∉ l) :
    lines (join "\n" (before ++ [last])) =
      before.map dropReturn ++ (if last = [] then [] else [last]) := by
  have hsplit : (join "\n" (before ++ [last])).splitOn '\n' = before ++ [last] :=
    List.splitOn_intercalate '\n' h (by simp)
  rw [lines, hsplit]
  simp

/-- A line is a piece between line feeds, up to its carriage return. -/
theorem exists_piece_of_mem_lines {t line : Text} (h : line ∈ lines t) :
    ∃ piece ∈ t.splitOnP (· == '\n'), line ⊆ piece := by
  rw [lines, List.splitOn_eq_splitOnP, List.mem_append] at h
  rcases h with h | h
  · obtain ⟨piece, hpiece, rfl⟩ := List.mem_map.1 h
    refine ⟨piece, List.dropLast_subset _ hpiece, ?_⟩
    unfold dropReturn
    split
    · exact List.dropLast_subset piece
    · exact List.Subset.refl piece
  · split at h
    · cases h
    · rw [List.mem_singleton.1 h, List.getLast?_eq_some_getLast (List.splitOnP_ne_nil _ _)]
      exact ⟨_, List.getLast_mem _, List.Subset.refl _⟩

theorem subset_of_mem_lines {t line : Text} (h : line ∈ lines t) : line ⊆ t := by
  obtain ⟨piece, hpiece, hline⟩ := exists_piece_of_mem_lines h
  exact List.Subset.trans hline (infix_of_mem_splitOnP hpiece).subset

theorem lines_feed_append (s t : Text) :
    lines (s ++ '\n' :: t) = lines (s ++ ['\n']) ++ lines t := by
  have hpieces : ∀ t : Text, (s ++ '\n' :: t).splitOn '\n' = s.splitOn '\n' ++ t.splitOn '\n' :=
    fun t => List.splitOn_append_cons_self ..
  have hne : t.splitOn '\n' ≠ [] := List.splitOnP_ne_nil _ t
  obtain ⟨before, last, ht⟩ := List.eq_nil_or_concat' (t.splitOn '\n') |>.resolve_left hne
  simp [lines, hpieces, ht]

theorem lines_unlines_append (ls : List Text) (t : Text) :
    lines (unlines ls ++ t) = lines (unlines ls) ++ lines t := by
  rcases List.eq_nil_or_concat' ls with rfl | ⟨before, last, rfl⟩
  · rfl
  · have hends : ∃ s, unlines (before ++ [last]) = s ++ ['\n'] :=
      ⟨unlines before ++ last, by simp [unlines]⟩
    obtain ⟨s, hs⟩ := hends
    rw [hs, List.append_assoc, List.singleton_append, lines_feed_append]

end Text

end SqlBuild
