import SqlBuild.Text.Utf8

/-!
# Reading texts back from bytes

The bytes of a character lead the decoder from between characters back to it, whatever follows
(`decodeFrom_encodeChar`); so a text is read back from its bytes (`decode_encode`), also by the
reader that refuses nothing (`decodeLossy_encode`).
-/

namespace SqlBuild

namespace Utf8

variable {b : UInt8} {acc : Text} {rest : Bytes}

theorem next_start (n : Nat) : next .start n = first n := if_pos rfl

theorem decodeFrom_ascii (h : b.toNat ≤ 0x7F) : decodeFrom .start acc (b :: rest) =
    decodeFrom .start (Char.ofNat b.toNat :: acc) rest := by
  have hn : next .start b.toNat = .char (Char.ofNat b.toNat) := by
    rw [next_start, first, if_pos h]
  rw [decodeFrom, hn]

theorem decodeFrom_lead {s : State} (h : ¬ b.toNat ≤ 0x7F) (hs : lead? b.toNat = some s) :
    decodeFrom .start acc (b :: rest) = decodeFrom s acc rest := by
  have hn : next .start b.toNat = .more s := by
    rw [next_start, first, if_neg h, hs]
  rw [decodeFrom, hn]

theorem decodeFrom_more {owed low high value : Nat} (hl : low ≤ b.toNat) (hh : b.toNat ≤ high) :
    decodeFrom ⟨owed + 2, low, high, value⟩ acc (b :: rest) =
      decodeFrom ⟨owed + 1, 0x80, 0xBF, 64 * value + (b.toNat - 0x80)⟩ acc rest := by
  have hn : next ⟨owed + 2, low, high, value⟩ b.toNat =
      .more ⟨owed + 1, 0x80, 0xBF, 64 * value + (b.toNat - 0x80)⟩ := by
    rw [next, if_neg (by simp), if_pos ⟨hl, hh⟩]
    simp
  rw [decodeFrom, hn]

theorem decodeFrom_last {low high value : Nat} (hl : low ≤ b.toNat) (hh : b.toNat ≤ high) :
    decodeFrom ⟨1, low, high, value⟩ acc (b :: rest) =
      decodeFrom .start (Char.ofNat (64 * value + (b.toNat - 0x80)) :: acc) rest := by
  have hn : next ⟨1, low, high, value⟩ b.toNat =
      .char (Char.ofNat (64 * value + (b.toNat - 0x80))) := by
    rw [next, if_neg (by simp), if_pos ⟨hl, hh⟩]
    simp
  rw [decodeFrom, hn]

theorem toNat_ofNat {n : Nat} (h : n < 256) : (UInt8.ofNat n).toNat = n := by
  rw [UInt8.toNat_ofNat']
  omega

theorem decodeFrom_two {v : Nat} (hl : 0x80 ≤ v) (hh : v ≤ 0x7FF) :
    decodeFrom .start acc
        (UInt8.ofNat (v / 64 % 0x20 + 0xC0) :: UInt8.ofNat (v % 0x40 + 0x80) :: rest) =
      decodeFrom .start (Char.ofNat v :: acc) rest := by
  have h1 : (UInt8.ofNat (v / 64 % 0x20 + 0xC0)).toNat = v / 64 + 0xC0 := by
    rw [toNat_ofNat (by omega)]
    omega
  have h2 : (UInt8.ofNat (v % 0x40 + 0x80)).toNat = v % 64 + 0x80 := toNat_ofNat (by omega)
  have hlead : lead? (v / 64 + 0xC0) = some ⟨1, 0x80, 0xBF, v / 64⟩ := by
    rw [lead?, if_pos (by omega), Nat.add_sub_cancel]
  have hv : 64 * (v / 64) + (v % 64 + 0x80 - 0x80) = v := by omega
  rw [decodeFrom_lead (by rw [h1]; omega) (by rw [h1]; exact hlead),
    decodeFrom_last (by rw [h2]; omega) (by rw [h2]; omega), h2, hv]

theorem decodeFrom_three {v : Nat} (hl : 0x800 ≤ v) (hh : v ≤ 0xFFFF)
    (hs : v < 0xD800 ∨ 0xDFFF < v) :
    decodeFrom .start acc
        (UInt8.ofNat (v / 4096 % 0x10 + 0xE0) :: UInt8.ofNat (v / 64 % 0x40 + 0x80) ::
          UInt8.ofNat (v % 0x40 + 0x80) :: rest) =
      decodeFrom .start (Char.ofNat v :: acc) rest := by
  have h1 : (UInt8.ofNat (v / 4096 % 0x10 + 0xE0)).toNat = v / 4096 + 0xE0 := by
    rw [toNat_ofNat (by omega)]
    omega
  have h2 : (UInt8.ofNat (v / 64 % 0x40 + 0x80)).toNat = v / 64 % 64 + 0x80 :=
    toNat_ofNat (by omega)
  have h3 : (UInt8.ofNat (v % 0x40 + 0x80)).toNat = v % 64 + 0x80 := toNat_ofNat (by omega)
  -- The second byte is bounded more narrowly behind `E0`, and behind `ED` by the surrogates.
  have hlead : ∃ low high, lead? (v / 4096 + 0xE0) = some ⟨2, low, high, v / 4096⟩ ∧
      low ≤ v / 64 % 64 + 0x80 ∧ v / 64 % 64 + 0x80 ≤ high := by
    unfold lead?
    rw [if_neg (by omega)]
    by_cases h0 : v / 4096 + 0xE0 = 0xE0
    · rw [if_pos h0]
      exact ⟨0xA0, 0xBF, by rw [show v / 4096 = 0 by omega], by omega, by omega⟩
    · rw [if_neg h0]
      by_cases hd : v / 4096 + 0xE0 = 0xED
      · rw [if_pos hd]
        exact ⟨0x80, 0x9F, by rw [show v / 4096 = 0xD by omega], by omega, by omega⟩
      · rw [if_neg hd, if_pos (by omega), Nat.add_sub_cancel]
        exact ⟨0x80, 0xBF, rfl, by omega, by omega⟩
  obtain ⟨low, high, hlead, hlow, hhigh⟩ := hlead
  have hv : 64 * (64 * (v / 4096) + (v / 64 % 64 + 0x80 - 0x80)) + (v % 64 + 0x80 - 0x80) = v := by
    omega
  rw [decodeFrom_lead (by rw [h1]; omega) (by rw [h1]; exact hlead),
    decodeFrom_more (by rw [h2]; exact hlow) (by rw [h2]; exact hhigh),
    decodeFrom_last (by rw [h3]; omega) (by rw [h3]; omega), h2, h3, hv]

theorem decodeFrom_four {v : Nat} (hl : 0x10000 ≤ v) (hh : v < 0x110000) :
    decodeFrom .start acc
        (UInt8.ofNat (v / 262144 % 0x08 + 0xF0) :: UInt8.ofNat (v / 4096 % 0x40 + 0x80) ::
          UInt8.ofNat (v / 64 % 0x40 + 0x80) :: UInt8.ofNat (v % 0x40 + 0x80) :: rest) =
      decodeFrom .start (Char.ofNat v :: acc) rest := by
  have h1 : (UInt8.ofNat (v / 262144 % 0x08 + 0xF0)).toNat = v / 262144 + 0xF0 := by
    rw [toNat_ofNat (by omega)]
    omega
  have h2 : (UInt8.ofNat (v / 4096 % 0x40 + 0x80)).toNat = v / 4096 % 64 + 0x80 :=
    toNat_ofNat (by omega)
  have h3 : (UInt8.ofNat (v / 64 % 0x40 + 0x80)).toNat = v / 64 % 64 + 0x80 :=
    toNat_ofNat (by omega)
  have h4 : (UInt8.ofNat (v % 0x40 + 0x80)).toNat = v % 64 + 0x80 := toNat_ofNat (by omega)
  have hlead : ∃ low high, lead? (v / 262144 + 0xF0) = some ⟨3, low, high, v / 262144⟩ ∧
      low ≤ v / 4096 % 64 + 0x80 ∧ v / 4096 % 64 + 0x80 ≤ high := by
    unfold lead?
    rw [if_neg (by omega), if_neg (by omega), if_neg (by omega), if_neg (by omega)]
    by_cases h0 : v / 262144 + 0xF0 = 0xF0
    · rw [if_pos h0]
      exact ⟨0x90, 0xBF, by rw [show v / 262144 = 0 by omega], by omega, by omega⟩
    · rw [if_neg h0]
      by_cases hm : 0xF1 ≤ v / 262144 + 0xF0 ∧ v / 262144 + 0xF0 ≤ 0xF3
      · rw [if_pos hm, Nat.add_sub_cancel]
        exact ⟨0x80, 0xBF, rfl, by omega, by omega⟩
      · rw [if_neg hm, if_pos (by omega)]
        exact ⟨0x80, 0x8F, by rw [show v / 262144 = 4 by omega], by omega, by omega⟩
  obtain ⟨low, high, hlead, hlow, hhigh⟩ := hlead
  have hv : 64 * (64 * (64 * (v / 262144) + (v / 4096 % 64 + 0x80 - 0x80)) +
      (v / 64 % 64 + 0x80 - 0x80)) + (v % 64 + 0x80 - 0x80) = v := by omega
  rw [decodeFrom_lead (by rw [h1]; omega) (by rw [h1]; exact hlead),
    decodeFrom_more (by rw [h2]; exact hlow) (by rw [h2]; exact hhigh),
    decodeFrom_more (by rw [h3]; omega) (by rw [h3]; omega),
    decodeFrom_last (by rw [h4]; omega) (by rw [h4]; omega), h2, h3, h4, hv]

theorem decodeFrom_encodeChar (c : Char) (acc : Text) (rest : Bytes) :
    decodeFrom .start acc (String.utf8EncodeChar c ++ rest) =
      decodeFrom .start (c :: acc) rest := by
  have hc : Char.ofNat c.val.toNat = c := Char.ofNat_toNat c
  have hvalid : c.val.toNat < 0xD800 ∨ (0xDFFF < c.val.toNat ∧ c.val.toNat < 0x110000) := c.valid
  unfold String.utf8EncodeChar
  dsimp only
  split
  · rename_i h1
    have hb : (UInt8.ofNat c.val.toNat).toNat = c.val.toNat := toNat_ofNat (by omega)
    rw [List.singleton_append, decodeFrom_ascii (by rw [hb]; exact h1), hb, hc]
  · split
    · rename_i h1 h2
      refine (decodeFrom_two (by omega) h2).trans ?_
      rw [hc]
      rfl
    · split
      · rename_i h1 h2 h3
        refine (decodeFrom_three (by omega) h3 (by omega)).trans ?_
        rw [hc]
        rfl
      · rename_i h1 h2 h3
        refine (decodeFrom_four (by omega) (by omega)).trans ?_
        rw [hc]
        rfl

theorem decodeFrom_encode : ∀ (t acc : Text),
    decodeFrom .start acc (encode t) = some (acc.reverse ++ t)
  | [], acc => by
    rw [List.append_nil]
    rfl
  | c :: t, acc => by
    rw [encode, List.flatMap_cons, decodeFrom_encodeChar]
    exact (decodeFrom_encode t (c :: acc)).trans (by simp)

theorem decode_encode (t : Text) : decode? (encode t) = some t := decodeFrom_encode t []

/-- A reader that replaces what is no character replaces nothing where another refuses nothing. -/
theorem decodeLossyFrom_of_decodeFrom : ∀ {bytes : Bytes} {s : State} {acc t : Text},
    decodeFrom s acc bytes = some t → decodeLossyFrom s acc bytes = t
  | [], s, acc, t, h => by
    simp only [decodeFrom] at h
    split at h
    · rename_i howed
      simp_all [decodeLossyFrom]
    · cases h
  | b :: bytes, s, acc, t, h => by
    simp only [decodeFrom] at h
    simp only [decodeLossyFrom]
    split at h
    · exact decodeLossyFrom_of_decodeFrom h
    · exact decodeLossyFrom_of_decodeFrom h
    · cases h

theorem decodeLossy_encode (t : Text) : decodeLossy (encode t) = t :=
  decodeLossyFrom_of_decodeFrom (decode_encode t)

/-- Only a line feed has the byte of one. -/
theorem feed_not_mem_encodeChar {c : Char} (h : c ≠ '\n') :
    (10 : UInt8) ∉ String.utf8EncodeChar c := by
  have hten : ∀ n, n % 256 ≠ 10 → (10 : UInt8) ≠ UInt8.ofNat n := by
    intro n hn heq
    have hvalue := congrArg UInt8.toNat heq
    rw [UInt8.toNat_ofNat'] at hvalue
    exact hn hvalue.symm
  have hc : c.val.toNat ≠ 10 := fun hn => h (Char.ext (UInt32.toNat_inj.1 hn))
  have hvalid : c.val.toNat < 0x110000 := by
    have := c.valid
    unfold UInt32.isValidChar Nat.isValidChar at this
    omega
  unfold String.utf8EncodeChar
  dsimp only
  split
  · rw [List.mem_singleton]
    exact hten _ (by omega)
  · split
    · simp only [List.mem_cons, List.not_mem_nil, or_false, not_or]
      exact ⟨hten _ (by omega), hten _ (by omega)⟩
    · split
      · simp only [List.mem_cons, List.not_mem_nil, or_false, not_or]
        exact ⟨hten _ (by omega), hten _ (by omega), hten _ (by omega)⟩
      · simp only [List.mem_cons, List.not_mem_nil, or_false, not_or]
        exact ⟨hten _ (by omega), hten _ (by omega), hten _ (by omega), hten _ (by omega)⟩

theorem encode_cons (c : Char) (t : Text) : encode (c :: t) = String.utf8EncodeChar c ++ encode t :=
  rfl

theorem encode_eq_nil_iff {t : Text} : encode t = [] ↔ t = [] := by
  constructor
  · intro h
    have hdecode := decode_encode t
    rw [h] at hdecode
    exact (Option.some.inj hdecode).symm
  · rintro rfl
    rfl

theorem splitOn_append_of_not_mem {α : Type} [BEq α] [LawfulBEq α] {sep : α} (rest : List α) :
    ∀ {before : List α}, sep ∉ before →
      (before ++ rest).splitOn sep = (rest.splitOn sep).modifyHead (before ++ ·)
  | [], _ => by cases h : rest.splitOn sep <;> simp [h]
  | a :: before, h => by
    have ha : ¬ (a == sep) = true := fun heq => h (eq_of_beq heq ▸ List.mem_cons_self)
    have hrest : sep ∉ before := fun hm => h (List.mem_cons_of_mem _ hm)
    rw [List.cons_append, List.splitOn_cons_eq_if_modifyHead, if_neg ha,
      splitOn_append_of_not_mem rest hrest]
    cases rest.splitOn sep <;> rfl

/-- The bytes between line feeds are those of the text between line feeds. -/
theorem splitOn_encode : ∀ t : Text, (encode t).splitOn 10 = (t.splitOn '\n').map encode
  | [] => rfl
  | c :: t => by
    have ih := splitOn_encode t
    rw [List.splitOn_cons_eq_if_modifyHead]
    by_cases h : c = '\n'
    · rw [if_pos (by simpa using h), h, List.map_cons, ← ih]
      rfl
    · rw [if_neg (by simpa using h), encode_cons,
        splitOn_append_of_not_mem _ (feed_not_mem_encodeChar h), ih]
      cases t.splitOn '\n' <;> rfl

end Utf8

end SqlBuild
