import Mathlib.Data.List.Chain
import SqlBuild.Proofs.SymbolicWalk

/-!
# Spellings of one path

Paths are compared by their parts, so empty segments make no difference to a path
(`Path.same_intercalate`). They do to the symbols in it, as a symbol and the code of an area belong
together only with one separator between them. In a tidy path the empty segments may be left out
before the symbols are written out or after it (`Tidy.filter_walk`), so spellings of one tidy path
are spellings of one path with the symbols written out too (`same_expandSymbols`).
-/

namespace SqlBuild

namespace Path

theorem components_intercalate {first : Text} {rest : List Text} (hfirst : '/' ∉ first)
    (hrest : ∀ s ∈ rest, '/' ∉ s) :
    components (['/'].intercalate (first :: rest)) =
      (decide (first = [] ∧ rest ≠ []),
        [first].filter (· ≠ []) ++ rest.filter fun part => part ≠ [] ∧ part ≠ ".") := by
  have hsplit : (['/'].intercalate (first :: rest)).splitOn '/' = first :: rest :=
    List.splitOn_intercalate '/' (List.forall_mem_cons.2 ⟨hfirst, hrest⟩) (by simp)
  have hstart : Text.startsWith (['/'].intercalate (first :: rest)) "/" =
      decide (first = [] ∧ rest ≠ []) := by
    rw [FileTree.intercalate_cons]
    cases first with
    | nil =>
      cases rest with
      | nil => rfl
      | cons s rest => simp [Text.startsWith]
    | cons c first =>
      have hc : ¬ '/' = c := fun h => hfirst (h ▸ List.mem_cons_self)
      simp [Text.startsWith, List.isPrefixOf, hc]
  rw [components, hsplit, hstart]
  rfl

/-- Empty segments behind the first one make no difference. -/
theorem same_intercalate {first : Text} {l m : List Text} (hfirst : '/' ∉ first)
    (hl : ∀ s ∈ l, '/' ∉ s) (hm : ∀ s ∈ m, '/' ∉ s) (hroot : first = [] → l ≠ [] ∧ m ≠ [])
    (h : l.filter (· ≠ []) = m.filter (· ≠ [])) :
    Same (['/'].intercalate (first :: l)) (['/'].intercalate (first :: m)) := by
  have hstart : (first = [] ∧ l ≠ []) = (first = [] ∧ m ≠ []) :=
    propext (and_congr_right fun hnil => iff_of_true (hroot hnil).1 (hroot hnil).2)
  have hparts : ∀ k : List Text, (k.filter fun part => part ≠ [] ∧ part ≠ ".") =
      (k.filter (· ≠ [])).filter (· ≠ (("." : String) : Text)) := by
    intro k
    rw [List.filter_filter]
    exact List.filter_congr fun part _ => by simp [Bool.and_comm]
  rw [Same, components_intercalate hfirst hl, components_intercalate hfirst hm, hparts l, hparts m]
  simp only [h, hstart]

end Path

namespace Reference

/-- The segments of a reference, backslashes turned. -/
def segmentsOf (reference : Text) : List Text := (reference.replaceChar '\\' "/").splitOn '/'

/-- The segments of the path that a reference stands for. -/
def spellOut (segments : List Text) : List Text :=
  if segments.any isMarking then writeOut segments else segments

theorem expandSymbols_eq_spellOut (reference : Text) :
    expandSymbols reference = ['/'].intercalate (spellOut (segmentsOf reference)) := by
  obtain ⟨first, rest, hsplit, hpath, hfirst, hrest⟩ :=
    exists_trail (reference.replaceChar '\\' "/")
  rw [expandSymbols, segmentsOf, spellOut]
  split
  · rw [hsplit, writeOut, FileTree.intercalate_cons, hpath]
    exact foldl_symbols hfirst hrest
  · rw [List.intercalate_splitOn]

/-- No symbol stands before an empty segment, and the last segment is not empty. -/
structure Tidy (segments : List Text) : Prop where
  behind : List.IsChain (fun s t => isSymbol s = true → t ≠ []) segments
  last : segments.getLast? ≠ some []

section Tidy

variable {front back l m : List Text} {s t : Text}

theorem Tidy.tail (h : Tidy (s :: l)) : Tidy l := by
  refine ⟨h.behind.tail, fun hlast => h.last ?_⟩
  cases l with
  | nil => cases hlast
  | cons t l => rwa [List.getLast?_cons_cons]

theorem Tidy.ne_nil (h : Tidy (s :: t :: l)) (hs : isSymbol s = true) : t ≠ [] :=
  (List.isChain_cons_cons.1 h.behind).1 hs

theorem Tidy.of_append (h : Tidy (front ++ l)) : Tidy l := by
  induction front with
  | nil => exact h
  | cons s front ih => exact ih h.tail

/-- A tidy path has a segment that is not empty, if it has any. -/
theorem Tidy.filter_ne_nil (h : Tidy (s :: l)) : (s :: l).filter (· ≠ []) ≠ [] := by
  intro hnone
  rw [List.filter_eq_nil_iff] at hnone
  refine h.last ?_
  rw [List.getLast?_eq_some_getLast (List.cons_ne_nil s l)]
  simpa using hnone _ (List.getLast_mem (List.cons_ne_nil s l))

theorem Tidy.areaBefore?_filter (h : Tidy l) (t : Text) :
    areaBefore? t (l.filter (· ≠ [])) = areaBefore? t l := by
  cases l with
  | nil => rfl
  | cons u rest =>
    rw [areaBefore?, areaBefore?, if_neg h.filter_ne_nil, if_neg (List.cons_ne_nil u rest)]

/-- Empty segments of a tidy path may be left out before or after its symbols are written out. -/
theorem Tidy.filter_walk (h : Tidy l) : (walk l).filter (· ≠ []) = walk (l.filter (· ≠ [])) := by
  have hkeep : ∀ {s : Text} {l : List Text}, s ≠ [] →
      (s :: l).filter (· ≠ []) = s :: l.filter (· ≠ []) :=
    fun hs => List.filter_cons_of_pos (by simpa using hs)
  have hsymbol : ∀ {s : Text}, isSymbol s = true → s ≠ [] := by
    rintro s hs rfl
    exact absurd hs (by decide)
  have hsources : sources ≠ [] := by decide
  fun_induction walk l with
  | case1 segment next rest hss area harea ih =>
    have hnamed : area ≠ [] := by
      obtain ⟨e, he, -, rfl⟩ := exists_of_areaIn? (areaIn?_of_areaBefore? harea)
      have hall : ∀ e ∈ areas, e.2 ≠ [] := by decide
      exact hall e he
    have hrest : Tidy rest := h.tail.tail
    rw [hkeep hsources, hkeep hnamed, hkeep (hsymbol hss), hkeep (h.ne_nil hss), ih hrest,
      walk_area hss ((hrest.areaBefore?_filter next).trans harea)]
  | case2 segment next rest hss harea ih =>
    have hrest : Tidy rest := h.tail.tail
    have hnext : next ≠ [] := h.ne_nil hss
    rw [hkeep hsources, ih h.tail, hkeep (hsymbol hss), hkeep hnext,
      walk_source hss ((hrest.areaBefore?_filter next).trans harea)]
  | case3 segment next rest hss ih =>
    by_cases hsegment : segment = []
    · rw [hsegment, List.filter_cons_of_neg (by simp), List.filter_cons_of_neg (by simp), ih h.tail]
    · rw [hkeep hsegment, hkeep hsegment, walk_cons hss, ih h.tail]
  | case4 segments hshort =>
    -- At most one segment is left, and it stays as it is.
    rcases segments with _ | ⟨s, _ | ⟨t, rest⟩⟩
    · rfl
    · by_cases hs : s = []
      · subst hs
        rfl
      · rw [hkeep hs]
        rfl
    · exact (hshort s t rest rfl).elim

/-- A tidy path stays tidy without the empty ones of its last segments. -/
theorem Tidy.append_filter (h : Tidy (front ++ back)) :
    Tidy (front ++ back.filter (· ≠ [])) := by
  have hnamed : ∀ s ∈ back.filter (· ≠ []), s ≠ [] :=
    fun s hs => by simpa using (List.mem_filter.1 hs).2
  refine ⟨?_, fun hlast => ?_⟩
  · refine List.isChain_append.2 ⟨h.behind.left_of_append, List.Pairwise.isChain ?_, ?_⟩
    · exact List.pairwise_of_forall_mem_list fun s _ t ht _ => hnamed t ht
    · exact fun s _ t ht _ => hnamed t (List.mem_of_mem_head? ht)
  · cases back with
    | nil => exact h.last hlast
    | cons s back =>
      have hsome := h.of_append.filter_ne_nil
      rw [List.getLast?_append, List.getLast?_eq_some_getLast hsome] at hlast
      exact hnamed _ (List.getLast_mem hsome) (Option.some.inj hlast)

theorem walk_ne_nil (h : l ≠ []) : walk l ≠ [] := by
  fun_cases walk l with
  | case1 => exact List.cons_ne_nil _ _
  | case2 => exact List.cons_ne_nil _ _
  | case3 => exact List.cons_ne_nil _ _
  | case4 => exact h

/-- An empty segment marks nothing. -/
theorem any_isMarking_filter (l : List Text) :
    (l.filter (· ≠ [])).any isMarking = l.any isMarking := by
  have hnil : isMarking [] = false := by decide
  rw [List.any_filter]
  congr 1
  funext s
  cases s with
  | nil => exact hnil.symm
  | cons c s => rfl

/-- Empty segments of a tidy path may be left out before it is expanded, but not the first one. -/
theorem same_expandSymbols {a b : Text} (ha : segmentsOf a = front ++ back)
    (hb : segmentsOf b = front ++ back.filter (· ≠ [])) (hne : front ≠ []) (hroot : front ≠ [[]])
    (htidy : (segmentsOf a).any isMarking = true → Tidy (segmentsOf a)) :
    Path.Same (expandSymbols a) (expandSymbols b) := by
  obtain ⟨first, more, rfl⟩ := List.exists_cons_of_ne_nil hne
  have hplain : ∀ {t : Text} {k : List Text}, segmentsOf t = first :: k →
      '/' ∉ first ∧ ∀ s ∈ k, '/' ∉ s := by
    intro t k hk
    have hslash : ∀ s ∈ first :: k, '/' ∉ s := by
      intro s hs hmem
      rw [← hk] at hs
      simpa using Text.not_mem_splitOnP hs '/' hmem
    exact List.forall_mem_cons.1 hslash
  have hmarking : (segmentsOf b).any isMarking = (segmentsOf a).any isMarking := by
    rw [ha, hb, List.any_append, List.any_append, any_isMarking_filter]
  have hstart : ∀ k : List Text, first = [] → more ++ k ≠ [] := by
    rintro k rfl hnone
    exact hroot (by rw [(List.append_eq_nil_iff.1 hnone).1])
  have hnamed : (more ++ back).filter (· ≠ []) =
      (more ++ back.filter (· ≠ [])).filter (· ≠ []) := by
    rw [List.filter_append, List.filter_append, List.filter_filter]
    simp only [Bool.and_self]
  rw [expandSymbols_eq_spellOut, expandSymbols_eq_spellOut, spellOut, spellOut, hmarking]
  split
  · rename_i hmarked
    have htidy := htidy hmarked
    rw [ha] at htidy
    have hl : Tidy (more ++ back) := htidy.tail
    have hm : Tidy (more ++ back.filter (· ≠ [])) := hl.append_filter
    rw [ha, hb, List.cons_append, List.cons_append, writeOut, writeOut]
    refine Path.same_intercalate (hplain ha).1 (not_mem_of_mem_walk (.inl rfl) (hplain ha).2)
      (not_mem_of_mem_walk (.inl rfl) (hplain hb).2) (fun hfirst => ?_) ?_
    · exact ⟨walk_ne_nil (hstart back hfirst), walk_ne_nil (hstart _ hfirst)⟩
    · rw [hl.filter_walk, hm.filter_walk, hnamed]
  · rw [ha, hb]
    exact Path.same_intercalate (hplain ha).1 (hplain ha).2 (hplain hb).2
      (fun hfirst => ⟨hstart back hfirst, hstart _ hfirst⟩) hnamed

end Tidy

end Reference

end SqlBuild
