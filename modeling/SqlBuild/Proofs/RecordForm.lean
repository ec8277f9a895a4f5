import SqlBuild.Proofs.Compilation
import SqlBuild.Proofs.Records

/-!
# The record form is settled by one reading

What is read from records has names that fit their column and values without white space at the end
(`settled_of_ofRecords`), and such a dictionary is read back as it is. So the record form loses the
white space at the end of values when a dictionary is first stored, and nothing after that.
-/

namespace SqlBuild

namespace Text

theorem splitAtByte?_eq_some {a b : Text} : ∀ {n : Nat} {t : Text},
    splitAtByte? n t = some (a, b) → t = a ++ b ∧ byteLength a = n
  | 0, t, h => by
    rw [splitAtByte?] at h
    obtain ⟨rfl, rfl⟩ := Prod.mk.inj (Option.some.inj h)
    exact ⟨rfl, rfl⟩
  | n + 1, [], h => by simp [splitAtByte?] at h
  | n + 1, c :: t, h => by
    rw [splitAtByte?] at h
    split at h
    · rename_i hfit
      obtain ⟨⟨a', b'⟩, hsplit, heq⟩ := Option.map_eq_some_iff.1 h
      obtain ⟨rfl, rfl⟩ := Prod.mk.inj heq
      obtain ⟨rfl, hlen⟩ := splitAtByte?_eq_some hsplit
      refine ⟨rfl, ?_⟩
      show c.utf8Size + byteLength a' = n + 1
      omega
    · cases h

end Text

namespace Dictionary

/-- The dictionary that insertions lead to, one after the other. -/
def ofInserts (inserts : List (Text × Text)) : Dictionary :=
  inserts.foldl (fun d e => d.insert e.1 e.2) {}

theorem fits_of_isPrefix {s t : Text} (h : s <+: t) (ht : fits t = true) : fits s = true := by
  obtain ⟨r, rfl⟩ := h
  simp only [fits, decide_eq_true_eq, byteLength_append] at ht ⊢
  omega

/-- The columns of a line are parts of it; the name fits, and the value has no blank at its end. -/
theorem columns?_eq_some {line name value : Text} (h : columns? line = some (name, value)) :
    fits name = true ∧ Text.trimEnd value = value ∧ name ⊆ line ∧ value ⊆ line := by
  unfold columns? at h
  split at h
  · rename_i first rest hsplit
    obtain ⟨rfl, rfl⟩ := Prod.mk.inj (Option.some.inj h)
    obtain ⟨rfl, hwidth⟩ := Text.splitAtByte?_eq_some hsplit
    have hfits : fits first = true := by simp [fits, hwidth]
    refine ⟨fits_of_isPrefix (Text.trimEnd_isPrefix _) hfits, Text.trimEnd_trimEnd _, ?_, ?_⟩
    · exact fun c hc => List.mem_append_left _ ((Text.trimEnd_isPrefix _).subset hc)
    · exact fun c hc => List.mem_append_right _ ((Text.trimEnd_isPrefix _).subset hc)
  · split at h
    · rename_i hshort
      obtain ⟨rfl, rfl⟩ := Prod.mk.inj (Option.some.inj h)
      refine ⟨fits_of_isPrefix (Text.trimEnd_isPrefix _) ?_, rfl, (Text.trimEnd_isPrefix _).subset,
        List.nil_subset _⟩
      simpa [fits] using hshort
    · cases h

/-- A dictionary that the record form keeps as it is. -/
structure Settled (d : Dictionary) : Prop extends Recordable d where
  trimmed : ∀ e ∈ d.entries, Text.trimEnd e.2 = e.2

theorem settled_empty : Settled {} := ⟨recordable_empty, by simp⟩

theorem Settled.insert {d : Dictionary} (h : d.Settled) {name value : Text}
    (hopened : Text.startsWith name "&" = true) (hclosed : Text.endsWith name "&" = true)
    (hname : '\n' ∉ name) (hvalue : '\n' ∉ value) (htrim : Text.trimEnd value = value) :
    (d.insert name value).Settled := by
  refine ⟨h.toRecordable.insert hopened hclosed hname hvalue, ?_⟩
  unfold Dictionary.insert
  split
  · intro e he
    rcases mem_assign he with rfl | he
    · exact htrim
    · exact h.trimmed e he
  · exact h.trimmed

theorem settled_of_readRecords : ∀ {lines : List Text} {d d' : Dictionary} {number : Nat},
    (∀ line ∈ lines, '\n' ∉ line) → d.Settled → readRecords d number lines = .ok d' → d'.Settled
  | [], d, d', number, _, hd, h => by
    obtain rfl := Except.ok.inj h
    exact hd
  | line :: rest, d, d', number, hlines, hd, h => by
    have hrest : ∀ line ∈ rest, '\n' ∉ line := fun l hl => hlines l (List.mem_cons_of_mem _ hl)
    have hline := hlines line List.mem_cons_self
    rw [readRecords] at h
    split at h
    · exact settled_of_readRecords hrest hd h
    · split at h
      · cases h
      · rename_i name value hcolumns
        split at h
        · rename_i hmarks
          obtain ⟨-, htrim, hname, hvalue⟩ := columns?_eq_some hcolumns
          have hinsert := hd.insert hmarks.1 hmarks.2 (fun hm => hline (hname hm))
            (fun hm => hline (hvalue hm)) htrim
          exact settled_of_readRecords hrest hinsert h
        · cases h

theorem settled_of_ofRecords {text : Text} {d : Dictionary} (h : ofRecords? text = .ok d) :
    d.Settled :=
  settled_of_readRecords (fun _ hl => Text.not_mem_lines hl) settled_empty h

theorem recordable_ofInserts {inserts : List (Text × Text)}
    (h : ∀ e ∈ inserts, Text.startsWith e.1 "&" = true ∧ Text.endsWith e.1 "&" = true ∧
      '\n' ∉ e.1 ∧ '\n' ∉ e.2) : (ofInserts inserts).Recordable := by
  refine List.foldlRecOn inserts _ recordable_empty fun d hd e he => ?_
  obtain ⟨hopened, hclosed, hname, hvalue⟩ := h e he
  exact hd.insert hopened hclosed hname hvalue

/-- A dictionary is read back from its records without the white space at the end of its values, all
names in their places; and one that was read from records is read back as it is. -/
theorem records_round_trip :
    (∀ inserts : List (Text × Text),
      (∀ e ∈ inserts, Text.startsWith e.1 "&" = true ∧ Text.endsWith e.1 "&" = true ∧
        '\n' ∉ e.1 ∧ '\n' ∉ e.2) →
      ofRecords? (ofInserts inserts).toRecords =
        .ok ⟨(ofInserts inserts).entries.map fun e => (e.1, Text.trimEnd e.2)⟩) ∧
    ∀ (text : Text) (d : Dictionary), ofRecords? text = .ok d → ofRecords? d.toRecords = .ok d := by
  refine ⟨fun inserts h => ofRecords_toRecords (recordable_ofInserts h), fun text d h => ?_⟩
  have hd := settled_of_ofRecords h
  rw [ofRecords_toRecords hd.toRecordable, trimmed_eq hd.trimmed]

/-- A name that fills its column, a value that is wider than its own, and a name inserted twice. -/
def wideInserts : List (Text × Text) :=
  [('&' :: List.replicate 19 'é' ++ ['&'], List.replicate 201 'x' ++ "\t "), ("&a&", "one"),
    ("&b&", []), ("&a&", "two\r")]

/-- Records with a blank line between them, and one that has no value column. -/
def shortRecords : Text := "&a&" ++ List.replicate 37 ' ' ++ "x \r\n\n&b&  \n"

theorem records_round_trip_wide :
    (wideInserts.all fun e => fits e.1) = true ∧
      ofRecords? (ofInserts wideInserts).toRecords =
        .ok ⟨(ofInserts wideInserts).entries.map fun e => (e.1, Text.trimEnd e.2)⟩ ∧
      ofRecords? shortRecords = .ok ⟨[("&a&", "x"), ("&b&", [])]⟩ ∧
      ofRecords? (⟨[("&a&", "x"), ("&b&", [])]⟩ : Dictionary).toRecords =
        .ok ⟨[("&a&", "x"), ("&b&", [])]⟩ :=
  ⟨by decide, records_round_trip.1 wideInserts (by decide), by decide,
    records_round_trip.2 shortRecords _ (by decide)⟩

end Dictionary

end SqlBuild
