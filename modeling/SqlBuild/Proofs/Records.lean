import SqlBuild.Options.Record
import SqlBuild.Proofs.Lines

/-!
# The record form, read back

A dictionary keeps each name once (`nodup_assign`), so reading its records one after the other puts
every name at the place it had. What the form does not keep is the white space at the end of a value:
a dictionary whose names and values fit the form is read back with its values trimmed
(`ofRecords_toRecords`).
-/

namespace SqlBuild

namespace Dictionary

/-- The names recorded, in order. -/
def names (entries : List (Text × Text)) : List Text := entries.map Prod.fst

theorem assign_of_not_mem {name value : Text} : ∀ {entries : List (Text × Text)},
    name ∉ names entries → assign name value entries = entries ++ [(name, value)]
  | [], _ => rfl
  | (n, v) :: rest, h => by
    have hn : n ≠ name := fun heq => h (heq ▸ List.mem_cons_self)
    rw [assign, if_neg hn, assign_of_not_mem fun hm => h (List.mem_cons_of_mem _ hm)]
    rfl

theorem names_assign (name value : Text) : ∀ entries : List (Text × Text),
    names (assign name value entries) =
      if name ∈ names entries then names entries else names entries ++ [name]
  | [] => rfl
  | (n, v) :: rest => by
    by_cases hn : n = name
    · subst hn
      have hmem : n ∈ names ((n, v) :: rest) := List.mem_cons_self
      rw [assign, if_pos rfl, if_pos hmem]
      rfl
    · have hmem : name ∈ names ((n, v) :: rest) ↔ name ∈ names rest := by
        simp [names, Ne.symm hn]
      rw [assign, if_neg hn]
      show n :: names (assign name value rest) = _
      rw [names_assign name value rest]
      by_cases hr : name ∈ names rest
      · rw [if_pos hr, if_pos (hmem.2 hr)]
        rfl
      · rw [if_neg hr, if_neg fun h => hr (hmem.1 h)]
        rfl

theorem nodup_assign {name value : Text} {entries : List (Text × Text)}
    (h : (names entries).Nodup) : (names (assign name value entries)).Nodup := by
  rw [names_assign]
  split
  · exact h
  · rename_i hn
    refine List.nodup_append.2 ⟨h, by simp, ?_⟩
    rintro a ha b hb rfl
    exact hn (List.mem_singleton.1 hb ▸ ha)

theorem mem_assign {name value : Text} {e : Text × Text} : ∀ {entries : List (Text × Text)},
    e ∈ assign name value entries → e = (name, value) ∨ e ∈ entries
  | [], h => .inl (List.mem_singleton.1 h)
  | (n, v) :: rest, h => by
    rw [assign] at h
    split at h
    · rename_i hn
      rcases List.mem_cons.1 h with rfl | h
      · exact .inl (by rw [hn])
      · exact .inr (List.mem_cons_of_mem _ h)
    · rcases List.mem_cons.1 h with rfl | h
      · exact .inr List.mem_cons_self
      · rcases mem_assign h with rfl | h
        · exact .inl rfl
        · exact .inr (List.mem_cons_of_mem _ h)

/-- An entry that the record form can keep: a name written as a placeholder that fits its column,
and no line feed. -/
structure IsRecord (e : Text × Text) : Prop where
  fits : fits e.1 = true
  opened : Text.startsWith e.1 "&" = true
  closed : Text.endsWith e.1 "&" = true
  nameLine : '\n' ∉ e.1
  valueLine : '\n' ∉ e.2

/-- A dictionary that the record form can keep. -/
structure Recordable (d : Dictionary) : Prop where
  nodup : (names d.entries).Nodup
  records : ∀ e ∈ d.entries, IsRecord e

theorem recordable_empty : Recordable {} := ⟨List.nodup_nil, by simp⟩

theorem Recordable.insert {d : Dictionary} (h : d.Recordable) {name value : Text}
    (hopened : Text.startsWith name "&" = true) (hclosed : Text.endsWith name "&" = true)
    (hname : '\n' ∉ name) (hvalue : '\n' ∉ value) : (d.insert name value).Recordable := by
  unfold Dictionary.insert
  split
  · rename_i hfits
    refine ⟨nodup_assign h.nodup, fun e he => ?_⟩
    rcases mem_assign he with rfl | he
    · exact ⟨hfits, hopened, hclosed, hname, hvalue⟩
    · exact h.records e he
  · exact h

/-- A dictionary without the white space at the end of its values. -/
def trimmed (d : Dictionary) : Dictionary := ⟨d.entries.map fun e => (e.1, Text.trimEnd e.2)⟩

theorem trimmed_eq {d : Dictionary} (h : ∀ e ∈ d.entries, Text.trimEnd e.2 = e.2) :
    d.trimmed = d := by
  have hentries : d.entries.map (fun e => (e.1, Text.trimEnd e.2)) = d.entries := by
    refine (List.map_congr_left fun e he => ?_).trans (List.map_id _)
    rw [h e he]
    rfl
  rw [trimmed, hentries]

/-- The line of an entry, without its line feed. -/
def recordLine (e : Text × Text) : Text :=
  e.1 ++ List.replicate (nameWidth - Text.byteLength e.1) ' ' ++ Text.padEnd valueWidth e.2

theorem toRecords_eq (d : Dictionary) : d.toRecords = Text.unlines (d.entries.map recordLine) := by
  rw [toRecords, Text.unlines, List.flatMap_map]
  rfl

theorem byteLength_append (s t : Text) :
    Text.byteLength (s ++ t) = Text.byteLength s + Text.byteLength t := by
  induction s with
  | nil => exact (Nat.zero_add _).symm
  | cons c s ih =>
    show c.utf8Size + Text.byteLength (s ++ t) = c.utf8Size + Text.byteLength s + _
    rw [ih, Nat.add_assoc]

theorem byteLength_replicate (n : Nat) : Text.byteLength (List.replicate n ' ') = n := by
  induction n with
  | zero => rfl
  | succ n ih =>
    show Char.utf8Size ' ' + Text.byteLength (List.replicate n ' ') = n + 1
    rw [ih, Nat.add_comm]
    rfl

theorem splitAtByte_append (s t : Text) :
    Text.splitAtByte? (Text.byteLength s) (s ++ t) = some (s, t) := by
  induction s with
  | nil => exact Text.splitAtByte?.eq_1 t
  | cons c s ih =>
    have hpos : 0 < c.utf8Size := c.utf8Size_pos
    obtain ⟨n, hn⟩ : ∃ n, Text.byteLength (c :: s) = n + 1 :=
      ⟨c.utf8Size - 1 + Text.byteLength s, by
        show c.utf8Size + Text.byteLength s = _
        omega⟩
    have hc : c.utf8Size + Text.byteLength s = n + 1 := hn
    have hrest : n + 1 - c.utf8Size = Text.byteLength s := by omega
    rw [hn, List.cons_append, Text.splitAtByte?, if_pos (by omega), hrest, ih]
    rfl

theorem IsRecord.eq_append {e : Text × Text} (h : IsRecord e) : ∃ s, e.1 = s ++ ['&'] := by
  obtain ⟨s, hs⟩ := List.isSuffixOf_iff_suffix.1 h.closed
  exact ⟨s, hs.symm⟩

theorem IsRecord.eq_cons {e : Text × Text} (h : IsRecord e) : ∃ s, e.1 = '&' :: s := by
  obtain ⟨s, hs⟩ := List.isPrefixOf_iff_prefix.1 h.opened
  exact ⟨s, hs.symm⟩

theorem IsRecord.not_mem_recordLine {e : Text × Text} (h : IsRecord e) : '\n' ∉ recordLine e := by
  unfold recordLine Text.padEnd List.rightpad
  simp only [List.mem_append, List.mem_replicate, not_or]
  refine ⟨⟨h.nameLine, by simp⟩, h.valueLine, by simp⟩

theorem padEnd_ne_nil (t : Text) : Text.padEnd valueWidth t ≠ [] := by
  intro h
  have hlen := congrArg List.length h
  rw [Text.padEnd, List.rightpad, List.length_append, List.length_replicate, List.length_nil,
    valueWidth] at hlen
  omega

/-- The columns of a record, whether or not a carriage return at its end was taken for part of the
line end. -/
theorem columns_recordLine {e : Text × Text} (h : IsRecord e) :
    columns? (Text.dropReturn (recordLine e)) = some (e.1, Text.trimEnd e.2) := by
  have hwidth : Text.byteLength (e.1 ++ List.replicate (nameWidth - Text.byteLength e.1) ' ') =
      nameWidth := by
    have hfits : Text.byteLength e.1 ≤ nameWidth := by simpa [Dictionary.fits] using h.fits
    rw [byteLength_append, byteLength_replicate]
    omega
  have hsplit := splitAtByte_append (e.1 ++ List.replicate (nameWidth - Text.byteLength e.1) ' ')
    (Text.dropReturn (Text.padEnd valueWidth e.2))
  rw [hwidth] at hsplit
  have hname : Text.trimEnd (e.1 ++ List.replicate (nameWidth - Text.byteLength e.1) ' ') = e.1 := by
    obtain ⟨s, hs⟩ := h.eq_append
    rw [Text.trimEnd_append fun c hc => by rw [List.eq_of_mem_replicate hc]; decide, hs]
    exact Text.trimEnd_append_singleton (by decide) s
  rw [recordLine, Text.dropReturn_append _ (padEnd_ne_nil e.2), columns?, hsplit]
  simp only [hname, Text.trimEnd_dropReturn, Text.trimEnd_padEnd]

theorem IsRecord.not_isAllBlank {e : Text × Text} (h : IsRecord e) :
    Text.isAllBlank (Text.dropReturn (recordLine e)) = false := by
  obtain ⟨s, hs⟩ := h.eq_cons
  have hstart : ∃ t, recordLine e = '&' :: t := by
    rw [recordLine, hs]
    exact ⟨_, rfl⟩
  rw [recordLine, Text.dropReturn_append _ (padEnd_ne_nil e.2), hs]
  rfl

/-- Records of new names are read into the places after those there are. -/
theorem readRecords_recordLines : ∀ (entries : List (Text × Text)) (d : Dictionary) (number : Nat),
    (names (d.entries ++ entries)).Nodup → (∀ e ∈ entries, IsRecord e) →
      readRecords d number (entries.map fun e => Text.dropReturn (recordLine e)) =
        .ok ⟨d.entries ++ entries.map fun e => (e.1, Text.trimEnd e.2)⟩
  | [], d, number, _, _ => by
    rw [List.map_nil, List.map_nil, List.append_nil]
    rfl
  | e :: entries, d, number, hn, hr => by
    have he := hr e List.mem_cons_self
    have hnew : e.1 ∉ names d.entries := by
      intro hm
      rw [names, List.map_append, List.map_cons] at hn
      exact (List.nodup_append.1 hn).2.2 e.1 hm e.1 List.mem_cons_self rfl
    have hinsert : d.insert e.1 (Text.trimEnd e.2) = ⟨d.entries ++ [(e.1, Text.trimEnd e.2)]⟩ := by
      rw [Dictionary.insert, if_pos he.fits, assign_of_not_mem hnew]
    rw [List.map_cons, readRecords, if_neg (by simp [he.not_isAllBlank]), columns_recordLine he]
    simp only [he.opened, he.closed, and_self, if_true]
    rw [hinsert, readRecords_recordLines entries]
    · simp
    · have hsame : names (d.entries ++ [(e.1, Text.trimEnd e.2)] ++ entries) =
          names (d.entries ++ e :: entries) := by simp [names]
      rw [hsame]
      exact hn
    · exact fun e' he' => hr e' (List.mem_cons_of_mem _ he')

/-- The record form keeps a dictionary but for the white space at the end of its values. -/
theorem ofRecords_toRecords {d : Dictionary} (h : d.Recordable) :
    ofRecords? d.toRecords = .ok d.trimmed := by
  have hlines : ∀ l ∈ d.entries.map recordLine, '\n' ∉ l := by
    intro l hl
    obtain ⟨e, he, rfl⟩ := List.mem_map.1 hl
    exact (h.records e he).not_mem_recordLine
  rw [ofRecords?, toRecords_eq, Text.lines_unlines hlines, List.map_map]
  exact readRecords_recordLines d.entries {} 1 h.nodup h.records

end Dictionary

end SqlBuild
