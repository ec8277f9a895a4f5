import SqlBuild.Text.Basic

/-!
# Words of joined texts

Words are cut at white space, so two texts with a blank between them have the words of the one and
then those of the other (`words_append_blank`), and words that were joined by blanks are read back
as they were (`words_join_of_whole`).
-/

namespace SqlBuild

namespace Text

/-- Without white space. -/
def Unbroken (t : Text) : Prop := ∀ c ∈ t, isBlank c = false

/-- A word: neither empty nor broken by white space. -/
def Whole (t : Text) : Prop := t ≠ [] ∧ Unbroken t

theorem unbroken_iff {t : Text} : Unbroken t ↔ t.any isBlank = false := by
  simp [Unbroken]

instance (t : Text) : Decidable (Unbroken t) :=
  decidable_of_iff (t.any isBlank = false) unbroken_iff.symm

instance (t : Text) : Decidable (Whole t) := inferInstanceAs (Decidable (t ≠ [] ∧ Unbroken t))

theorem any_blank_append {t : Text} (s : Text) (h : ¬ Unbroken t) : (s ++ t).any isBlank = true := by
  rw [List.any_append, Bool.or_eq_true]
  exact .inr (by simpa [unbroken_iff] using h)

theorem Unbroken.append {s t : Text} (hs : Unbroken s) (ht : Unbroken t) : Unbroken (s ++ t) := by
  intro c hc
  rcases List.mem_append.1 hc with hc | hc
  · exact hs c hc
  · exact ht c hc

theorem not_mem_splitOnP {p : Char → Bool} :
    ∀ {t w : Text}, w ∈ t.splitOnP p → ∀ c ∈ w, p c = false
  | [], w, h => by
    rw [List.splitOnP_nil, List.mem_singleton] at h
    simp [h]
  | a :: t, w, h => by
    rw [List.splitOnP_cons_eq_if_modifyHead] at h
    split at h
    · rcases List.mem_cons.1 h with rfl | h
      · simp
      · exact not_mem_splitOnP h
    · rename_i ha
      obtain ⟨first, rest, hs⟩ := List.exists_cons_of_ne_nil (List.splitOnP_ne_nil p t)
      rw [hs, List.modifyHead_cons] at h
      rcases List.mem_cons.1 h with rfl | h
      · intro c hc
        rcases List.mem_cons.1 hc with rfl | hc
        · simpa using ha
        · exact not_mem_splitOnP (t := t) (by rw [hs]; exact List.mem_cons_self) c hc
      · exact not_mem_splitOnP (t := t) (by rw [hs]; exact List.mem_cons_of_mem _ h)

@[simp] theorem words_nil : words [] = [] := by simp [words]

theorem words_append_blank (s t : Text) {c : Char} (hc : isBlank c = true) :
    words (s ++ c :: t) = words s ++ words t := by
  rw [words, List.splitOnP_append_cons s t hc, List.filter_append]
  rfl

theorem words_of_whole {t : Text} (h : Whole t) : words t = [t] := by
  rw [words, List.splitOnP_eq_singleton h.2]
  simp [h.1]

theorem words_blank_cons {c : Char} (hc : isBlank c = true) (t : Text) :
    words (c :: t) = words t := by
  simpa using words_append_blank [] t hc

/-- A word at the start of a text. -/
theorem words_append_of_whole {w behind : Text} (hw : Whole w)
    (hbehind : behind.head?.all isBlank = true) : words (w ++ behind) = w :: words behind := by
  cases behind with
  | nil => simp [words_of_whole hw]
  | cons c t =>
    rw [words_append_blank w t hbehind, words_of_whole hw, words_blank_cons hbehind]
    rfl

/-- The first word of a text, with what stands behind it. -/
theorem exists_of_words : ∀ {t word : Text} {rest : List Text}, words t = word :: rest →
    ∃ behind, trimStart t = word ++ behind ∧ behind.head?.all isBlank = true ∧ words behind = rest
  | [], word, rest, h => by simp at h
  | c :: t, word, rest, h => by
    by_cases hc : isBlank c = true
    · rw [words_blank_cons hc] at h
      rw [trimStart, List.dropWhile_cons_of_pos hc]
      exact exists_of_words h
    · have hsplit : (c :: t).takeWhile (!isBlank ·) ++ (c :: t).dropWhile (!isBlank ·) = c :: t :=
        List.takeWhile_append_dropWhile
      have hwhole : Whole ((c :: t).takeWhile (!isBlank ·)) := by
        refine ⟨by simp [hc], fun d hd => ?_⟩
        simpa using List.all_eq_true.1 List.all_takeWhile d hd
      have hbehind : ((c :: t).dropWhile (!isBlank ·)).head?.all isBlank = true := by
        have hhead := List.head?_dropWhile_not (!isBlank ·) (c :: t)
        revert hhead
        cases ((c :: t).dropWhile (!isBlank ·)).head? <;> simp
      rw [← hsplit, words_append_of_whole hwhole hbehind] at h
      obtain ⟨rfl, hrest⟩ := List.cons.inj h
      exact ⟨_, by rw [trimStart, List.dropWhile_cons_of_neg hc, hsplit], hbehind, hrest⟩

theorem words_append_blanks : ∀ {blanks : Text}, (∀ c ∈ blanks, isBlank c = true) → ∀ t : Text,
    words (t ++ blanks) = words t
  | [], _, t => by rw [List.append_nil]
  | c :: blanks, h, t => by
    rw [List.forall_mem_cons] at h
    have hrest := words_append_blanks h.2 []
    rw [List.nil_append, words_nil] at hrest
    rw [words_append_blank t blanks h.1, hrest, List.append_nil]

theorem words_ne_nil : ∀ {t : Text} {c : Char}, c ∈ t → isBlank c = false → words t ≠ []
  | a :: t, c, hc, hb => by
    by_cases ha : isBlank a = true
    · have hct : c ∈ t := by
        rcases List.mem_cons.1 hc with rfl | hct
        · rw [ha] at hb
          exact absurd hb (by simp)
        · exact hct
      have hw := words_append_blank [] t ha
      rw [words_nil, List.nil_append, List.nil_append] at hw
      rw [hw]
      exact words_ne_nil hct hb
    · obtain ⟨first, rest, hs⟩ := List.exists_cons_of_ne_nil (List.splitOnP_ne_nil isBlank t)
      rw [words, List.splitOnP_cons_eq_if_modifyHead, if_neg ha, hs]
      simp

/-- The last word of a text that does not end in white space ends as the text does. -/
theorem words_append_singleton {c : Char} (hc : isBlank c = false) (t : Text) :
    ∃ ws w, words (t ++ [c]) = ws ++ [w ++ [c]] := by
  by_cases h : t.any isBlank = true
  · obtain ⟨b, hmem, hb⟩ := List.any_eq_true.1 h
    obtain ⟨s, u, rfl⟩ := List.append_of_mem hmem
    obtain ⟨ws, w, hw⟩ := words_append_singleton hc u
    refine ⟨words s ++ ws, w, ?_⟩
    rw [List.append_assoc, List.cons_append, words_append_blank _ _ hb, hw, List.append_assoc]
  · have ht : Unbroken t := unbroken_iff.2 (by simpa using h)
    have hlast : Unbroken [c] := by simpa [Unbroken] using hc
    exact ⟨[], t, words_of_whole ⟨by simp, ht.append hlast⟩⟩
termination_by t.length
decreasing_by subst_vars; simp only [List.length_append, List.length_cons]; omega

theorem whole_of_mem_words {t w : Text} (h : w ∈ words t) : Whole w := by
  rw [words, List.mem_filter] at h
  exact ⟨by simpa using h.2, not_mem_splitOnP h.1⟩

theorem words_join : ∀ ts : List Text, words (join " " ts) = ts.flatMap words
  | [] => words_nil
  | [t] => by simp [join]
  | t :: u :: ts => by
    have h : join " " (t :: u :: ts) = t ++ ' ' :: join " " (u :: ts) := by
      simp [join, List.intercalate_cons_cons]
    rw [h, words_append_blank _ _ (by decide), words_join (u :: ts)]
    rfl

/-- Words that were joined by blanks are read back. -/
theorem words_join_of_whole {ws : List Text} (h : ∀ w ∈ ws, Whole w) :
    words (join " " ws) = ws := by
  rw [words_join]
  induction ws with
  | nil => rfl
  | cons w ws ih =>
    rw [List.flatMap_cons, words_of_whole (h w List.mem_cons_self),
      ih fun v hv => h v (List.mem_cons_of_mem _ hv)]
    rfl

theorem join_inj {us ws : List Text} (hu : ∀ w ∈ us, Whole w) (hw : ∀ w ∈ ws, Whole w) :
    join " " us = join " " ws ↔ us = ws := by
  constructor
  · intro h
    rw [← words_join_of_whole hu, h, words_join_of_whole hw]
  · rintro rfl
    rfl

end Text

end SqlBuild
