import SqlBuild.Proofs.Digits
import SqlBuild.Proofs.Notices

/-!
# What the lines of a batch say

The header of a message is a line with a number and a level (`Sybase.IsHeader`). A batch is rejected
when one of its headers is severe, and the first such header is named; a line is left out when it
belongs to a notice or is the text of one (`Sybase.Sifted`). Headers inside a notice are seen all
the same, because a header ends the notice before it. So the lines that are left hold all severe
headers and no notice, and reading them again changes nothing (`Sybase.interpret_sifted`).
-/

namespace SqlBuild

namespace Sybase

/-! ### Headers -/

/-- One or more digits, of any script. -/
def IsNumeral (t : Text) : Prop := t ≠ [] ∧ ∀ c ∈ t, isDecimalDigit c = true

/-- A line that begins like a header, with these numerals for its number and its level. -/
def IsHeading (line number level : Text) : Prop :=
  ∃ state rest, line = "Msg " ++ (number ++ (", Level " ++ (level ++ (", State " ++
      (state ++ rest))))) ∧ IsNumeral number ∧ IsNumeral level ∧ IsNumeral state

/-- The numerals of a line that begins like a header. -/
def numerals? (line : Text) : Option (Text × Text) := do
  let (number, rest) ← digits? (← Text.after? "Msg " line)
  let (level, rest) ← digits? (← Text.after? ", Level " rest)
  let _ ← digits? (← Text.after? ", State " rest)
  return (number, level)

theorem digits?_append {run rest : Text} (hrun : IsNumeral run)
    (hrest : ∀ c, rest.head? = some c → isDecimalDigit c = false) :
    digits? (run ++ rest) = some (run, rest) := by
  have hstop : rest.takeWhile isDecimalDigit = [] := by
    cases rest with
    | nil => rfl
    | cons c rest => simp [hrest c rfl]
  have htake : (run ++ rest).takeWhile isDecimalDigit = run := by
    rw [List.takeWhile_append_of_pos hrun.2, hstop, List.append_nil]
  simp [digits?, htake, hrun.1]

theorem digits?_eq_some {t run rest : Text} (h : digits? t = some (run, rest)) :
    t = run ++ rest ∧ IsNumeral run := by
  simp only [digits?, Option.ite_none_left_eq_some, Option.some.injEq, Prod.mk.injEq] at h
  obtain ⟨hne, rfl, rfl⟩ := h
  refine ⟨?_, hne, fun c hc => List.mem_takeWhile_imp hc⟩
  exact (List.prefix_iff_eq_append.1 (List.takeWhile_prefix isDecimalDigit)).symm

theorem exists_digits? {run : Text} (hrun : IsNumeral run) (rest : Text) :
    ∃ p, digits? (run ++ rest) = some p := by
  have hne : (run ++ rest).takeWhile isDecimalDigit ≠ [] := by
    simp [List.takeWhile_append_of_pos hrun.2, hrun.1]
  exact ⟨_, if_neg hne⟩

theorem numerals?_eq_some {line number level : Text} :
    numerals? line = some (number, level) ↔ IsHeading line number level := by
  constructor
  · intro h
    simp only [numerals?, Option.bind_eq_bind, Option.bind_eq_some_iff, Option.pure_def,
      Option.some.injEq, Prod.mk.injEq] at h
    obtain ⟨t₁, h₁, ⟨n, r₁⟩, hn, t₂, h₂, ⟨l, r₂⟩, hl, t₃, h₃, ⟨s, r₃⟩, hs, rfl, rfl⟩ := h
    obtain ⟨rfl, hnumber⟩ := digits?_eq_some hn
    obtain ⟨rfl, hlevel⟩ := digits?_eq_some hl
    obtain ⟨rfl, hstate⟩ := digits?_eq_some hs
    obtain rfl := Text.after?_eq_some.1 h₂
    obtain rfl := Text.after?_eq_some.1 h₃
    exact ⟨s, r₃, Text.after?_eq_some.1 h₁, hnumber, hlevel, hstate⟩
  · rintro ⟨state, rest, rfl, hnumber, hlevel, hstate⟩
    obtain ⟨p, hp⟩ := exists_digits? hstate rest
    -- A comma ends the digits of the number, and another those of the level.
    have hread : ∀ {run : Text}, IsNumeral run → ∀ comma : Text, comma.head? = some ',' →
        ∀ behind, digits? (run ++ (comma ++ behind)) = some (run, comma ++ behind) := by
      intro run hrun comma hhead behind
      refine digits?_append hrun fun c hc => ?_
      rw [List.head?_append, hhead] at hc
      cases hc
      decide
    simp only [numerals?, Text.after?_eq_some.2 rfl, hread hnumber ", Level " rfl,
      hread hlevel ", State " rfl, hp, Option.bind_eq_bind, Option.bind_some, Option.pure_def]

/-- The reader of headers knows a line that begins like one, and no other. -/
theorem ofLine?_eq_some {line : Text} {header : Header} : Header.ofLine? line = some header ↔
    ∃ number level, IsHeading line number level ∧ header = ⟨numberOf number, numberOf level⟩ := by
  have hmap : Header.ofLine? line =
      (numerals? line).map fun p => ⟨numberOf p.1, numberOf p.2⟩ := by
    simp only [Header.ofLine?, numerals?, Option.bind_eq_bind, Option.map_bind, Option.pure_def,
      Function.comp_def, Option.map_some]
  simp only [hmap, Option.map_eq_some_iff, Prod.exists, numerals?_eq_some, @eq_comm _ header]

/-- What a numeral in ASCII digits stands for. -/
def valueOf (digits : Text) : Nat := Nat.ofDigitChars 10 digits 0

/-- A numeral in ASCII digits whose number fits 32 bits. -/
def IsSmall (digits : Text) : Prop :=
  (∀ c ∈ digits, c.isDigit = true) ∧ valueOf digits < Nat.pow 2 32

instance (digits : Text) : Decidable (IsSmall digits) :=
  @instDecidableAnd _ _ (List.decidableBAll _ digits) (Nat.decLt _ _)

theorem numberOf_eq {digits : Text} (hne : digits ≠ []) (h : IsSmall digits) :
    numberOf digits = valueOf digits := by
  have hsign : Text.unsigned? 32 digits =
      (Text.digits? digits).filter (· < Nat.pow 2 32) := by
    unfold Text.unsigned?
    split
    · exact absurd (h.1 '+' List.mem_cons_self) (by decide)
    · rfl
  have hread : Text.digits? digits = some (valueOf digits) := Text.digits?_of_isDigit hne h.1
  rw [numberOf, hsign, hread, Option.filter_some_pos (by simpa using h.2), Option.getD_some]

/-- A line that is a header of a message with this number, of this level. -/
def IsHeader (line : Text) (number level : Nat) : Prop :=
  ∃ n l, IsHeading line n l ∧ valueOf n = number ∧ valueOf l = level

/-- A header, if the line is one, has a number and a level that are small. -/
def IsPlain (line : Text) : Prop := ∀ n l, IsHeading line n l → IsSmall n ∧ IsSmall l

instance (line : Text) : Decidable (IsPlain line) :=
  decidable_of_iff (∀ p, numerals? line = some p → IsSmall p.1 ∧ IsSmall p.2)
    ⟨fun h n l hline => h (n, l) (numerals?_eq_some.2 hline),
      fun h p hp => h p.1 p.2 (numerals?_eq_some.1 hp)⟩

theorem ofLine?_iff {line : Text} (h : IsPlain line) {number level : Nat} :
    Header.ofLine? line = some ⟨number, level⟩ ↔ IsHeader line number level := by
  rw [ofLine?_eq_some]
  refine exists₂_congr fun n l => and_congr_right fun hheading => ?_
  obtain ⟨hn, hl⟩ := h n l hheading
  obtain ⟨_, _, -, ⟨hne, -⟩, ⟨hle, -⟩, -⟩ := hheading
  rw [numberOf_eq hne hn, numberOf_eq hle hl, Header.mk.injEq, eq_comm, @eq_comm _ level]

theorem ofLine?_eq_none {line : Text} (h : IsPlain line) :
    Header.ofLine? line = none ↔ ∀ number level, ¬ IsHeader line number level := by
  simp only [Option.eq_none_iff_forall_ne_some, ← ofLine?_iff h]
  exact ⟨fun hnone n l => hnone ⟨n, l⟩, fun hnone header => hnone header.number header.level⟩

/-! ### Lines that are left out -/

/-- The header of a notice of a changed context. -/
def OpensNotice (line : Text) : Prop :=
  ∃ number level, IsHeader line number level ∧ (number = 5701 ∨ number = 5703 ∨ number = 5704)

/-- The header of a message that rejects the batch. -/
def IsSevere (line : Text) : Prop :=
  ∃ number level, IsHeader line number level ∧ 10 < level ∧
    ¬(number = 5701 ∨ number = 5703 ∨ number = 5704)

/-- A line of a notice, behind these lines: its header, or a line without a header of its own that
neither a header nor a blank line parts from it. -/
def InNotice (before : List Text) (line : Text) : Prop :=
  OpensNotice line ∨ (∀ number level, ¬ IsHeader line number level) ∧
    ∃ start opening inside, before = start ++ opening :: inside ∧ OpensNotice opening ∧
      ∀ t ∈ inside, (∀ number level, ¬ IsHeader t number level) ∧ Text.isAllBlank t = false

/-- A line that is not to be shown, behind these lines. -/
def IsDropped (before : List Text) (line : Text) : Prop :=
  InNotice before line ∨
    (isContextNotice line = true ∧ ∀ number level, ¬ IsHeader line number level)

/-- What is left of lines that stand behind others when those not to be shown are taken out. -/
inductive Sifted : List Text → List Text → List Text → Prop
  | nil {before : List Text} : Sifted before [] []
  | drop {before lines kept : List Text} {line : Text} (h : IsDropped before line)
      (rest : Sifted (before ++ [line]) lines kept) : Sifted before (line :: lines) kept
  | keep {before lines kept : List Text} {line : Text} (h : ¬ IsDropped before line)
      (rest : Sifted (before ++ [line]) lines kept) : Sifted before (line :: lines) (line :: kept)

/-- What is said of the message that a line is the header of. -/
theorem exists_isHeader_iff {line : Text} (h : IsPlain line) {P : Nat → Nat → Prop} :
    (∃ number level, IsHeader line number level ∧ P number level) ↔
      ∃ header, Header.ofLine? line = some header ∧ P header.number header.level := by
  simp only [← ofLine?_iff h]
  exact ⟨fun ⟨n, l, hline, hp⟩ => ⟨⟨n, l⟩, hline, hp⟩, fun ⟨header, hline, hp⟩ =>
    ⟨header.number, header.level, hline, hp⟩⟩

theorem opensNotice_iff {line : Text} (h : IsPlain line) :
    OpensNotice line ↔ (Header.ofLine? line).any Header.isNotice = true := by
  rw [OpensNotice, exists_isHeader_iff h (P := fun number _ => _)]
  simp [Option.any_eq_true, Header.isNotice, Header.noticeNumbers]

theorem isSevere_iff {line : Text} (h : IsPlain line) :
    IsSevere line ↔ (Header.ofLine? line).any Header.isFailure = true := by
  have hfailure : ∀ header : Header, header.isFailure = true ↔ 10 < header.level ∧
      ¬(header.number = 5701 ∨ header.number = 5703 ∨ header.number = 5704) := by
    intro header
    rw [Header.isFailure, Bool.and_eq_true, decide_eq_true_eq, Header.informationLevel]
    simp [Header.isNotice, Header.noticeNumbers, and_comm]
  rw [IsSevere, exists_isHeader_iff h (P := fun number level => _), Option.any_eq_true]
  simp only [hfailure]

theorem underWay_iff {before : List Text} (h : ∀ t ∈ before, IsPlain t) :
    (∃ start opening inside, before = start ++ opening :: inside ∧ OpensNotice opening ∧
      ∀ t ∈ inside, (∀ number level, ¬ IsHeader t number level) ∧ Text.isAllBlank t = false) ↔
    NoticeUnderWay before := by
  refine exists₃_congr fun start opening inside => and_congr_right ?_
  rintro rfl
  rw [opensNotice_iff (h opening (by simp))]
  refine and_congr_right fun _ => forall₂_congr fun t ht => ?_
  rw [ofLine?_eq_none (h t (by simp [ht]))]

/-- The reader of lines leaves out those that are not to be shown. -/
theorem withoutNotices_singleton {before : List Text} {line : Text}
    (hbefore : ∀ t ∈ before, IsPlain t) (hline : IsPlain line) :
    let skipping := before.foldl skipsBehind false
    withoutNotices skipping [line] = [] ∧ IsDropped before line ∨
      withoutNotices skipping [line] = [line] ∧ ¬ IsDropped before line := by
  simp only []
  rw [IsDropped, InNotice, underWay_iff hbefore, noticeUnderWay_iff, opensNotice_iff hline,
    ← ofLine?_eq_none hline]
  rcases hheader : Header.ofLine? line with _ | header
  · cases before.foldl skipsBehind false
    · cases hnotice : isContextNotice line <;> simp [withoutNotices, hheader, hnotice]
    · simp [withoutNotices, hheader]
  · cases hnotice : header.isNotice <;> simp [withoutNotices, hheader, hnotice]

theorem sifted_withoutNotices {before lines : List Text}
    (h : ∀ t ∈ before ++ lines, IsPlain t) :
    Sifted before lines (withoutNotices (before.foldl skipsBehind false) lines) := by
  induction lines generalizing before with
  | nil => exact .nil
  | cons line lines ih =>
    obtain ⟨hbefore, hlines⟩ := List.forall_mem_append.1 h
    have hrest := @ih (before ++ [line]) (by simpa using h)
    rw [List.foldl_concat] at hrest
    rw [withoutNotices_cons]
    rcases withoutNotices_singleton hbefore (hlines line List.mem_cons_self) with
      ⟨hnone, hdrop⟩ | ⟨hone, hkeep⟩
    · rw [hnone]
      exact .drop hdrop hrest
    · rw [hone]
      exact .keep hkeep hrest

/-! ### Reading what is left -/

/-- What is left holds no header of a notice, and no text of one. -/
theorem of_mem_withoutNotices {lines : List Text} {skipping : Bool} {t : Text}
    (h : t ∈ withoutNotices skipping lines) :
    (Header.ofLine? t).any Header.isNotice = false ∧
      (Header.ofLine? t = none → isContextNotice t = false) := by
  induction lines generalizing skipping with
  | nil => simp [withoutNotices] at h
  | cons line lines ih =>
    simp only [withoutNotices] at h
    split at h
    · rename_i header hheader
      split at h
      · exact ih h
      · rcases List.mem_cons.1 h with rfl | h
        · simp_all
        · exact ih h
    · split at h
      · exact ih h
      · split at h
        · exact ih h
        · rcases List.mem_cons.1 h with rfl | h
          · simp_all
          · exact ih h

theorem withoutNotices_eq_self {lines : List Text}
    (h : ∀ t ∈ lines, (Header.ofLine? t).any Header.isNotice = false ∧
      (Header.ofLine? t = none → isContextNotice t = false)) :
    withoutNotices false lines = lines := by
  induction lines with
  | nil => rfl
  | cons line lines ih =>
    obtain ⟨⟨hheader, htext⟩, hlines⟩ := List.forall_mem_cons.1 h
    have hrest := ih hlines
    rcases hline : Header.ofLine? line with _ | header
    · simp [withoutNotices, hline, htext hline, hrest]
    · simp_all [withoutNotices]

/-- No header of a failure is left out. -/
theorem failure?_withoutNotices (lines : List Text) (skipping : Bool) :
    failure? (withoutNotices skipping lines) = failure? lines := by
  induction lines generalizing skipping with
  | nil => rfl
  | cons line lines ih =>
    have hone : failure? (withoutNotices skipping [line]) = failure? [line] := by
      rcases hline : Header.ofLine? line with _ | header
      · have hkept : ∀ t ∈ withoutNotices skipping [line], Header.ofLine? t = none := by
          intro t ht
          rw [List.mem_singleton.1 ((withoutNotices_sublist [line] skipping).subset ht), hline]
        have hnone : failure? (withoutNotices skipping [line]) = none :=
          List.find?_eq_none.2 fun t ht => by simp [hkept t ht]
        rw [hnone]
        simp [failure?, hline]
      · cases hnotice : header.isNotice <;>
          simp [failure?, withoutNotices, hline, hnotice, Header.isFailure]
    unfold failure? at ih hone ⊢
    rw [withoutNotices_cons, List.find?_append, ih, hone, ← List.find?_append,
      List.singleton_append]

theorem interpret_withoutNotices (lines : List Text) :
    interpret (withoutNotices false lines) = interpret lines := by
  rw [interpret, interpret, failure?_withoutNotices,
    withoutNotices_eq_self fun t ht => of_mem_withoutNotices ht]

theorem interpret_eq_ok {lines : List Text} {output : Text} : interpret lines = .ok output ↔
    failure? lines = none ∧ output = Text.join "\n" (withoutNotices false lines) := by
  rw [interpret]
  cases failure? lines with
  | none => simp only [Except.ok.injEq, true_and, eq_comm]
  | some header => simp only [reduceCtorEq, false_and]

theorem interpret_eq_error {lines : List Text} {e : BatchError} : interpret lines = .error e ↔
    ∃ header, failure? lines = some header ∧
      e = ⟨"Batch failed (" ++ header ++ ")", Text.join "\n" (withoutNotices false lines)⟩ := by
  rw [interpret]
  cases failure? lines with
  | none => simp only [reduceCtorEq, false_and, exists_false]
  | some header => simp only [Except.error.injEq, Option.some.injEq, exists_eq_left', eq_comm]

theorem failure?_eq_none {lines : List Text} (h : ∀ t ∈ lines, IsPlain t) :
    failure? lines = none ↔ ∀ t ∈ lines, ¬ IsSevere t := by
  rw [failure?, List.find?_eq_none]
  exact forall₂_congr fun t ht => by rw [isSevere_iff (h t ht)]

theorem failure?_eq_some {lines : List Text} (h : ∀ t ∈ lines, IsPlain t) {header : Text} :
    failure? lines = some header ↔ ∃ before after, lines = before ++ header :: after ∧
      IsSevere header ∧ ∀ t ∈ before, ¬ IsSevere t := by
  rw [failure?, List.find?_eq_some_iff_append]
  constructor
  · rintro ⟨hheader, before, after, rfl, hbefore⟩
    refine ⟨before, after, rfl, (isSevere_iff (h header (by simp))).2 hheader, fun t ht => ?_⟩
    rw [isSevere_iff (h t (by simp [ht]))]
    simpa using hbefore t ht
  · rintro ⟨before, after, rfl, hheader, hbefore⟩
    refine ⟨(isSevere_iff (h header (by simp))).1 hheader, before, after, rfl, fun t ht => ?_⟩
    have := hbefore t ht
    rw [isSevere_iff (h t (by simp [ht]))] at this
    simpa using this

/-- The lines that are shown are those that `Sifted` leaves. The batch is rejected when a severe
header is among its lines, and the first one is named; what is left is read in the same way. -/
theorem interpret_sifted {lines : List Text} (h : ∀ t ∈ lines, IsPlain t) :
    ∃ kept, Sifted [] lines kept ∧
      (∀ output, interpret lines = .ok output ↔
        (∀ t ∈ lines, ¬ IsSevere t) ∧ output = Text.join "\n" kept) ∧
      (∀ e, interpret lines = .error e ↔ ∃ before header after,
        lines = before ++ header :: after ∧ IsSevere header ∧ (∀ t ∈ before, ¬ IsSevere t) ∧
          e = ⟨"Batch failed (" ++ header ++ ")", Text.join "\n" kept⟩) ∧
      interpret kept = interpret lines := by
  refine ⟨withoutNotices false lines, @sifted_withoutNotices [] lines h, ?_, ?_,
    interpret_withoutNotices lines⟩
  · intro output
    rw [interpret_eq_ok, failure?_eq_none h]
  · intro e
    simp only [interpret_eq_error, failure?_eq_some h]
    constructor
    · rintro ⟨header, ⟨before, after, hlines, hheader, hbefore⟩, rfl⟩
      exact ⟨before, header, after, hlines, hheader, hbefore, rfl⟩
    · rintro ⟨before, header, after, hlines, hheader, hbefore, rfl⟩
      exact ⟨header, ⟨before, after, hlines, hheader, hbefore⟩, rfl⟩

/-- A row, a notice that a severe message cuts off, the text of a notice, and another notice with
the blank line at its end. -/
def mixedLines : List Text :=
  ["1", "Msg 5701, Level 10, State 2:", "Server 'SYB', Line 1:", "Msg 208, Level 16, State 1:",
    "x not found.", "Changed language setting to 'us_english'.", "Msg 5703, Level 16, State 1:",
    "Changed", " ", "Msg 102, Level 15, State 1:"]

theorem interpret_sifted_mixedLines : (∀ t ∈ mixedLines, IsPlain t) ∧
    ∃ kept, Sifted [] mixedLines kept ∧
      interpret mixedLines =
        .error ⟨"Batch failed (Msg 208, Level 16, State 1:)", Text.join "\n" kept⟩ ∧
      interpret kept = interpret mixedLines := by
  have h : ∀ t ∈ mixedLines, IsPlain t := by decide +kernel
  have hsevere : ∀ t ∈ mixedLines, IsSevere t ↔ _ := fun t ht => isSevere_iff (h t ht)
  obtain ⟨kept, hsifted, -, herror, hagain⟩ := interpret_sifted h
  refine ⟨h, kept, hsifted, (herror _).2 ⟨mixedLines.take 3, mixedLines[3], mixedLines.drop 4,
    rfl, (hsevere _ (by decide)).2 (by decide +kernel), fun t ht hs => ?_, rfl⟩, hagain⟩
  have hfine : ∀ t ∈ mixedLines.take 3, (Header.ofLine? t).any Header.isFailure = false := by
    decide +kernel
  rw [hsevere t (List.mem_of_mem_take ht), hfine t ht] at hs
  cases hs

end Sybase

end SqlBuild
