import SqlBuild.Bulk.Row
import SqlBuild.Proofs.Lines
import SqlBuild.Proofs.Words

/-!
# Rows and their lines

A row that was read from a line is normal: it has a field for each column, it keeps tabs to its last
field, its line does not end in a line end, and no number is empty (`normal_coerce`). A normal row
is read back from its line (`Normal.coerce_ofLine`), so loading changes a row once and never again
(`coerce_settles`).
-/

namespace SqlBuild

namespace Row

section Lines

theorem toLine_singleton (field : Text) : toLine [field] = field := by
  simp [toLine, Text.join]

theorem toLine_cons (field : Text) {row : Row} (h : row ≠ []) :
    toLine (field :: row) = field ++ '\t' :: toLine row := by
  obtain ⟨next, row, rfl⟩ := List.exists_cons_of_ne_nil h
  simp [toLine, Text.join, List.intercalate_cons_cons]

theorem mem_toLine {c : Char} {row : Row} (h : c ∈ toLine row) :
    c = '\t' ∨ ∃ field ∈ row, c ∈ field := by
  simpa using Text.mem_join h

/-- Only a row of one empty field has an empty line. -/
theorem toLine_eq_nil_iff {row : Row} (h : row ≠ []) : toLine row = [] ↔ row = [[]] := by
  obtain ⟨field, rest, rfl⟩ := List.exists_cons_of_ne_nil h
  cases rest with
  | nil => simp [toLine_singleton]
  | cons next rest => simp [toLine_cons field (List.cons_ne_nil next rest)]

theorem toLine_concat (last : Text) : ∀ before : Row,
    toLine (before ++ [last]) = before.flatMap (· ++ ['\t']) ++ last
  | [] => toLine_singleton last
  | field :: before => by
    rw [List.cons_append, toLine_cons field (by simp), toLine_concat last before]
    simp

/-- The line of a row ends as its last field does, or in the tab before it. -/
theorem of_getLast?_toLine {before : Row} {last : Text} {c : Char}
    (h : c ∈ (toLine (before ++ [last])).getLast?) : c ∈ last.getLast? ∨ c = '\t' := by
  rw [toLine_concat, List.getLast?_append] at h
  cases hlast : last.getLast? with
  | some d =>
    rw [hlast] at h
    exact .inl h
  | none =>
    rw [hlast] at h
    rcases List.eq_nil_or_concat' before with rfl | ⟨fields, field, rfl⟩
    · simp at h
    · exact .inr (by simpa using h.symm)

/-- Fields may be joined to the last one before the line is written. -/
theorem toLine_append_toLine {pieces : Row} (h : pieces ≠ []) : ∀ before : Row,
    toLine (before ++ [toLine pieces]) = toLine (before ++ pieces)
  | [] => by rw [List.nil_append, List.nil_append, toLine_singleton]
  | field :: before => by
    rw [List.cons_append, toLine_cons field (by simp), toLine_append_toLine h before,
      List.cons_append, toLine_cons field (by simp [h])]

theorem toLine_drop_suffix : ∀ (count : Nat) (row : Row), toLine (row.drop count) <:+ toLine row
  | 0, row => List.suffix_refl _
  | count + 1, [] => List.suffix_refl _
  | count + 1, [field] => by simp [toLine, Text.join]
  | count + 1, field :: next :: row => by
    rw [toLine_cons field (List.cons_ne_nil next row)]
    exact (toLine_drop_suffix count (next :: row)).trans
      ((List.suffix_cons '\t' _).trans (List.suffix_append field _))

/-- A line is cut at every tab; only the last field is cut so. -/
theorem splitOn_toLine : ∀ {before : Row} {last : Text}, (∀ field ∈ before, '\t' ∉ field) →
    (toLine (before ++ [last])).splitOn '\t' = before ++ last.splitOn '\t'
  | [], last, _ => by rw [List.nil_append, toLine_singleton, List.nil_append]
  | field :: before, last, h => by
    rw [List.cons_append, toLine_cons field (by simp),
      List.splitOn_append_cons_self_of_not_mem (h field List.mem_cons_self),
      splitOn_toLine fun f hf => h f (List.mem_cons_of_mem _ hf), List.cons_append]

end Lines

section Fitting

/-- The last field takes what the others leave. -/
theorem fit_succ (count : Nat) (row : Row) :
    fit (count + 1) row = (row.take count).rightpad count [] ++ [toLine (row.drop count)] := by
  unfold fit List.rightpad
  rcases Nat.lt_or_ge row.length (count + 1) with hshort | hlong
  · have hdrop : row.drop count = [] := List.drop_eq_nil_of_le (by omega)
    have hcount : count + 1 - row.length = (count - row.length) + 1 := by omega
    rw [if_pos (by omega), hdrop, List.take_of_length_le (by omega), hcount,
      List.replicate_succ', List.append_assoc]
    rfl
  · have htake : (row.take count).length = count := by simp; omega
    rw [htake, Nat.sub_self, List.replicate_zero, List.append_nil]
    split
    · -- No field is left over: the last one is joined to nothing.
      obtain ⟨last, hdrop⟩ : ∃ last, row.drop count = [last] :=
        List.length_eq_one_iff.1 (by simp; omega)
      have hlength : count + 1 - row.length = 0 := by omega
      rw [hdrop, toLine_singleton, ← hdrop, List.take_append_drop, hlength, List.replicate_zero,
        List.append_nil]
    · rfl

@[simp] theorem length_fit (count : Nat) (row : Row) : (fit count row).length = count := by
  cases count with
  | zero => cases row <;> simp [fit]
  | succ count =>
    rw [fit_succ]
    simp [List.rightpad]
    omega

theorem fill_eq_self : ∀ {row : Row} {columns : List ColumnInfo}, row.length = columns.length →
    (∀ p ∈ row.zip columns, p.2.isNumeric = true → p.1 ≠ []) → List.zipWith fill row columns = row
  | [], _, _, _ => rfl
  | field :: row, [], hlen, _ => by simp at hlen
  | field :: row, column :: columns, hlen, h => by
    have hfield : fill field column = field := by
      refine if_neg ?_
      rintro ⟨hempty, hnum⟩
      exact h (field, column) (by simp) hnum hempty
    rw [List.zipWith_cons_cons, hfield,
      fill_eq_self (by simpa using hlen) fun p hp => h p (by simp [hp])]

theorem fill_eq (field : Text) (column : ColumnInfo) :
    fill field column = field ∨ fill field column = ['0'] := by
  unfold fill
  split
  · exact .inr rfl
  · exact .inl rfl

/-- No empty number is left. -/
theorem numeric_zipWith_fill : ∀ (fields : Row) (columns : List ColumnInfo),
    ∀ p ∈ (List.zipWith fill fields columns).zip columns, p.2.isNumeric = true → p.1 ≠ []
  | [], _, p, hp, _ => by simp at hp
  | _ :: _, [], p, hp, _ => by simp at hp
  | field :: fields, column :: columns, p, hp, hnumeric => by
    rw [List.zipWith_cons_cons, List.zip_cons_cons, List.mem_cons] at hp
    rcases hp with rfl | hp
    · unfold fill
      split
      · exact List.cons_ne_nil '0' []
      · rename_i hfield
        exact fun hempty => hfield ⟨hempty, hnumeric⟩
    · exact numeric_zipWith_fill fields columns p hp hnumeric

theorem coerce_concat (columns : List ColumnInfo) (column : ColumnInfo) (row : Row) :
    coerce (columns ++ [column]) row =
      List.zipWith fill ((row.take columns.length).rightpad columns.length []) columns ++
        [fill (toLine (row.drop columns.length)) column] := by
  have hlength : ((row.take columns.length).rightpad columns.length []).length =
      columns.length := by
    rw [List.length_rightpad, List.length_take]
    omega
  rw [coerce, List.length_append, List.length_singleton, fit_succ, List.zipWith_append hlength]
  rfl

end Fitting

/-- The characters at the end of a line that belong to no field. -/
def isLineEnd (c : Char) : Bool := c == '\r' || c == '\n'

/-- The form that a row has once it was read from a line. -/
structure Normal (columns : List ColumnInfo) (row : Row) : Prop where
  length : row.length = columns.length
  tabsLast : ∀ field ∈ row.dropLast, '\t' ∉ field
  ends : ∀ c ∈ (toLine row).getLast?, isLineEnd c = false
  numeric : ∀ p ∈ row.zip columns, p.2.isNumeric = true → p.1 ≠ []

section Normal

variable {columns : List ColumnInfo} {row : Row}

theorem toLine_ofLine (line : Text) : toLine (ofLine line) = Text.dropEndWhile isLineEnd line :=
  List.intercalate_splitOn '\t'

theorem not_mem_of_mem_ofLine {line field : Text} (h : field ∈ ofLine line) : '\t' ∉ field := by
  intro htab
  rw [ofLine, List.splitOn_eq_splitOnP] at h
  simpa using Text.not_mem_splitOnP h '\t' htab

/-- What is joined to the last field of a line does not end in a line end. -/
theorem of_getLast?_drop_ofLine {count : Nat} {line : Text} {c : Char}
    (h : c ∈ (toLine ((ofLine line).drop count)).getLast?) : isLineEnd c = false := by
  obtain ⟨before, hsuffix⟩ := toLine_drop_suffix count (ofLine line)
  rw [toLine_ofLine] at hsuffix
  refine Text.of_getLast?_dropEndWhile (t := line) ?_
  rw [← hsuffix, List.getLast?_append, Option.mem_def.1 h]
  rfl

theorem normal_coerce (hne : columns ≠ []) (line : Text) :
    Normal columns (coerce columns (ofLine line)) := by
  obtain ⟨columns, column, rfl⟩ := (List.eq_nil_or_concat' columns).resolve_left hne
  have hrow := coerce_concat columns column (ofLine line)
  constructor
  case length => simp [coerce]
  case tabsLast =>
    intro field hfield
    rw [hrow, List.dropLast_concat, ← List.map_uncurry_zip_eq_zipWith] at hfield
    obtain ⟨⟨written, column⟩, hp, rfl⟩ := List.mem_map.1 hfield
    have hwritten : '\t' ∉ written := by
      rcases List.mem_append.1 (List.of_mem_zip hp).1 with h | h
      · exact not_mem_of_mem_ofLine (List.mem_of_mem_take h)
      · simp [List.eq_of_mem_replicate h]
    rcases fill_eq written column with heq | heq
    · simpa [heq] using hwritten
    · simp [heq]
  case ends =>
    intro c hc
    rw [hrow] at hc
    rcases of_getLast?_toLine hc with hc | rfl
    · rcases fill_eq (toLine ((ofLine line).drop columns.length)) column with heq | heq
      · rw [heq] at hc
        exact of_getLast?_drop_ofLine hc
      · rw [heq] at hc
        obtain rfl : '0' = c := by simpa using hc
        decide
    · decide
  case numeric => exact numeric_zipWith_fill _ _

/-- A normal row is read back from its line, whatever ends the line. -/
theorem Normal.coerce_ofLine (h : Normal columns row) (hne : columns ≠ []) {ending : Text}
    (hending : ∀ c ∈ ending, isLineEnd c = true) :
    coerce columns (ofLine (toLine row ++ ending)) = row := by
  have hrow : row ≠ [] := by
    rintro rfl
    exact hne (List.length_eq_zero_iff.1 h.length.symm)
  obtain ⟨before, last, rfl⟩ := (List.eq_nil_or_concat' row).resolve_left hrow
  have htabs := h.tabsLast
  rw [List.dropLast_concat] at htabs
  have hcount : columns.length = before.length + 1 := by
    rw [← h.length, List.length_append, List.length_singleton]
  have hline : ofLine (toLine (before ++ [last]) ++ ending) = before ++ last.splitOn '\t' := by
    have htrim : Text.dropEndWhile isLineEnd (toLine (before ++ [last]) ++ ending) =
        toLine (before ++ [last]) := by
      rw [Text.dropEndWhile_append hending, Text.dropEndWhile_of_getLast? h.ends]
    exact (congrArg (·.splitOn '\t') htrim).trans (splitOn_toLine htabs)
  have hlast : toLine (last.splitOn '\t') = last := List.intercalate_splitOn '\t'
  -- Only tabs in the last field make too many pieces, and `fit` joins just these again.
  have hfit : fit columns.length (before ++ last.splitOn '\t') = before ++ [last] := by
    rw [hcount, fit_succ, List.take_left, List.drop_left, hlast]
    simp [List.rightpad]
  rw [coerce, hline, hfit]
  exact fill_eq_self h.length h.numeric

end Normal

/-- Loading settles a row: there is a field for each column and no empty number, fields that are too
many are joined to the last one, and the row's line is read as this row again. Nothing of a line is
lost when it has a field for each column and no column holds numbers. -/
theorem coerce_settles {columns : List ColumnInfo} (hne : columns ≠ []) (line : Text) :
    let row := coerce columns (ofLine line)
    row.length = columns.length ∧
      (∀ p ∈ row.zip columns, p.2.isNumeric = true → p.1 ≠ []) ∧
      (∀ ending : Text, (∀ c ∈ ending, isLineEnd c = true) →
        coerce columns (ofLine (toLine row ++ ending)) = row) ∧
      (columns.length < (ofLine line).length →
        row.getLast? = some (toLine ((ofLine line).drop (columns.length - 1)))) ∧
      (columns.length ≤ (ofLine line).length → (∀ column ∈ columns, column.isNumeric = false) →
        toLine row = Text.dropEndWhile isLineEnd line) := by
  intro row
  have hnormal : Normal columns row := normal_coerce hne line
  refine ⟨hnormal.length, hnormal.numeric, fun ending hending => hnormal.coerce_ofLine hne hending,
    ?_, ?_⟩
  · intro hmany
    obtain ⟨columns, column, rfl⟩ := (List.eq_nil_or_concat' columns).resolve_left hne
    rw [List.length_append, List.length_singleton] at hmany
    have hleft : 1 < ((ofLine line).drop columns.length).length := by
      rw [List.length_drop]
      omega
    have hjoined : toLine ((ofLine line).drop columns.length) ≠ [] := by
      intro hempty
      rw [(toLine_eq_nil_iff (List.ne_nil_of_length_pos (by omega))).1 hempty] at hleft
      simp at hleft
    have hfill : fill (toLine ((ofLine line).drop columns.length)) column =
        toLine ((ofLine line).drop columns.length) := if_neg fun h => hjoined h.1
    simp only [row, coerce_concat, List.getLast?_concat, hfill, List.length_append,
      List.length_singleton, Nat.add_sub_cancel]
  · intro hmany hplain
    have hfit : row = fit columns.length (ofLine line) := by
      refine fill_eq_self (length_fit _ _) fun p hp hnumeric => ?_
      rw [hplain p.2 (List.of_mem_zip hp).2] at hnumeric
      cases hnumeric
    obtain ⟨count, hcount⟩ : ∃ count, columns.length = count + 1 :=
      ⟨columns.length - 1, by have := List.length_pos_iff.2 hne; omega⟩
    have hleft : (ofLine line).drop count ≠ [] :=
      List.ne_nil_of_length_pos (by rw [List.length_drop]; omega)
    have hfull : ((ofLine line).take count).rightpad count [] = (ofLine line).take count := by
      have hlength : ((ofLine line).take count).length = count := by
        rw [List.length_take]
        omega
      rw [List.rightpad, hlength, Nat.sub_self, List.replicate_zero, List.append_nil]
    rw [hfit, hcount, fit_succ, hfull, toLine_append_toLine hleft, List.take_append_drop,
      toLine_ofLine]

/-- A line with an empty number, a return inside a field and a tab too many, a line that is too
short, and one whose fields stay as they are. -/
theorem coerce_settles_ragged :
    let plain : List ColumnInfo := [⟨"name", "varchar"⟩, ⟨"note", "varchar"⟩]
    let columns := ⟨"id", "INT"⟩ :: plain
    let ragged : Text := "\tann\r\ta\t\tb\r\n"
    columns ≠ [] ∧ coerce columns (ofLine ragged) = ["0", "ann\r", "a\t\tb"] ∧
      coerce columns (ofLine "0\tann\r\ta\t\tb\n") = ["0", "ann\r", "a\t\tb"] ∧
      coerce columns (ofLine "7") = ["7", "", ""] ∧
      coerce columns (ofLine "7\t\t\n\r") = ["7", "", ""] ∧
      plain ≠ [] ∧ toLine (coerce plain (ofLine "\t\r\t\n")) = "\t\r\t" := by
  intro plain columns ragged
  have hne : columns ≠ [] := List.cons_ne_nil _ _
  have hplain : plain ≠ [] := List.cons_ne_nil _ _
  obtain ⟨-, -, hagain, -, -⟩ := coerce_settles hne ragged
  obtain ⟨-, -, hshort, -, -⟩ := coerce_settles hne "7"
  obtain ⟨-, -, -, -, hwhole⟩ := coerce_settles hplain "\t\r\t\n"
  have hrow : coerce columns (ofLine ragged) = ["0", "ann\r", "a\t\tb"] := by decide
  have hseven : coerce columns (ofLine "7") = ["7", "", ""] := by decide
  rw [hrow] at hagain
  rw [hseven] at hshort
  have hfeed : ∀ c ∈ ("\n" : Text), isLineEnd c = true := List.all_eq_true.1 (by decide)
  have hboth : ∀ c ∈ ("\n\r" : Text), isLineEnd c = true := List.all_eq_true.1 (by decide)
  exact ⟨hne, hrow, hagain "\n" hfeed, hseven, hshort "\n\r" hboth, hplain,
    hwhole (by decide) (by decide)⟩

end Row

end SqlBuild
