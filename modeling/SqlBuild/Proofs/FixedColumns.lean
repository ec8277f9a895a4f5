import SqlBuild.Metadata.Actions
import SqlBuild.Proofs.Columns
import SqlBuild.Proofs.Digits
import SqlBuild.Proofs.Encoding

/-!
# Sources in fixed columns

A row whose fields fit the columns is cut from its line again, also when the line has lost the
blanks at its end (`Metadata.Sheet.row_written`). Lines without content are passed over and counted.
So the sources of the actions and of their details are read back row by row, and the first line that
is no row is named (`Metadata.Sheet.read_back`).
-/

namespace SqlBuild

namespace Metadata

/-! ### Columns -/

/-- A row on a line: its fields in columns of these widths, the last one behind them. -/
def inColumns : List Nat → Row → Text
  | width :: widths, field :: row => Text.padEnd width field ++ inColumns widths row
  | _, row => row.flatten

/-- What a line has in columns of these widths, the first of them at `start`, and behind them. -/
def cut (line : Text) : Nat → List Nat → Row
  | start, [] => [column line start none]
  | start, width :: widths =>
    column line start (some (start + width)) :: cut line (start + width) widths

/-- Fields without blanks around them, one for each column and not wider than it, and one more. -/
inductive FitsColumns : List Nat → Row → Prop
  | last {field : Text} (htrim : Text.trim field = field) : FitsColumns [] [field]
  | cons {width : Nat} {widths : List Nat} {field : Text} {row : Row}
      (htrim : Text.trim field = field) (hlength : field.length ≤ width)
      (rest : FitsColumns widths row) : FitsColumns (width :: widths) (field :: row)

theorem column_trimEnd (line : Text) (first : Nat) (last : Option Nat) :
    column (Text.trimEnd line) first last = column line first last := by
  cases last with
  | none => exact Text.trim_drop_trimEnd line first
  | some last => exact Text.trim_stretch_trimEnd line (first, last - first)

theorem cut_trimEnd (line : Text) : ∀ (start : Nat) (widths : List Nat),
    cut (Text.trimEnd line) start widths = cut line start widths
  | start, [] => by rw [cut, cut, column_trimEnd]
  | start, width :: widths => by rw [cut, cut, column_trimEnd, cut_trimEnd]

theorem cut_inColumns {widths : List Nat} {row : Row} (h : FitsColumns widths row) :
    ∀ before : Text, cut (before ++ inColumns widths row) before.length widths = row := by
  induction h with
  | last htrim =>
    intro before
    simpa [cut, column, inColumns] using htrim
  | @cons width widths field row htrim hlength _ ih =>
    intro before
    have hfield := Text.length_padEnd hlength
    have hrest := ih (before ++ Text.padEnd width field)
    rw [List.length_append, hfield, List.append_assoc] at hrest
    rw [inColumns, cut, hrest]
    have hcolumn : column (before ++ (Text.padEnd width field ++ inColumns widths row))
        before.length (some (before.length + width)) = Text.trim (Text.padEnd width field) := by
      simp [column, hfield]
    rw [hcolumn, Text.trim_padEnd, htrim]

/-! ### Numbers -/

/-- A number of 32 bits in ASCII digits, with a plus sign before it or without. -/
def IsNumber (t : Text) : Prop :=
  ∃ digits, (t = digits ∨ t = '+' :: digits) ∧ digits ≠ [] ∧ (∀ c ∈ digits, c.isDigit = true) ∧
    Nat.ofDigitChars 10 digits 0 < Nat.pow 2 32

theorem isSome_digits? {t : Text} (bound : Nat) :
    ((Text.digits? t).filter (· < bound)).isSome ↔
      t ≠ [] ∧ (∀ c ∈ t, c.isDigit = true) ∧ Nat.ofDigitChars 10 t 0 < bound := by
  by_cases h : t ≠ [] ∧ ∀ c ∈ t, c.isDigit = true
  · rw [Text.digits?_of_isDigit h.1 h.2]
    simpa [Option.filter, h.1] using fun _ => h.2
  · have hnone : Text.digits? t = none := if_neg (by simpa using h)
    rw [hnone]
    exact iff_of_false (by simp) fun hdigits => h ⟨hdigits.1, hdigits.2.1⟩

theorem isSome_unsigned? (t : Text) : (Text.unsigned? 32 t).isSome ↔ IsNumber t := by
  unfold Text.unsigned? IsNumber
  split
  · rename_i rest
    rw [isSome_digits?]
    constructor
    · exact fun h => ⟨rest, .inr rfl, h⟩
    · rintro ⟨digits, rfl | heq, h⟩
      · exact absurd (h.2.1 '+' (by simp)) (by decide)
      · rwa [List.tail_eq_of_cons_eq heq]
  · rename_i hsign
    rw [isSome_digits?]
    constructor
    · exact fun h => ⟨t, .inl rfl, h⟩
    · rintro ⟨digits, rfl | rfl, h⟩
      · exact h
      · exact absurd rfl (hsign digits)

instance (t : Text) : Decidable (IsNumber t) := decidable_of_iff _ (isSome_unsigned? t)

/-! ### Lines of a source -/

/-- A blank line or a comment: the first character that shows is a `#`, if there is one. -/
def IsSkipped (line : Text) : Prop := ∀ c ∈ (Text.trimStart line).head?, c = '#'

instance (line : Text) : Decidable (IsSkipped line) :=
  decidable_of_iff ((Text.trimStart line).head?.all (· == '#') = true)
    (by simp [IsSkipped, Option.all_eq_true])

/-- The lines with content among lines of which the first has the number `n + 1`. -/
def contentFrom (n : Nat) (lines : List Text) : List (Nat × Text) :=
  ((lines.zipIdx n).map fun (line, n) => (n + 1, Text.trimEnd line)).filter fun (_, line) =>
    Text.trimStart line ≠ [] && !Text.startsWith (Text.trimStart line) "#"

theorem hasContent_iff (line : Text) :
    (Text.trimStart line ≠ [] && !Text.startsWith (Text.trimStart line) "#") = true ↔
      ¬ IsSkipped line := by
  have hcomment : Text.startsWith (Text.trimStart line) "#" =
      ((Text.trimStart line).head? == some '#') := Text.startsWith_singleton _ '#'
  rw [hcomment, IsSkipped]
  cases Text.trimStart line <;> simp

theorem contentFrom_cons (n : Nat) (line : Text) (lines : List Text) :
    contentFrom n (line :: lines) =
      (if IsSkipped line then [] else [(n + 1, Text.trimEnd line)]) ++
        contentFrom (n + 1) lines := by
  have hskipped : IsSkipped (Text.trimEnd line) ↔ IsSkipped line := by
    rw [IsSkipped, Text.head?_trimStart_trimEnd, IsSkipped]
  simp only [contentFrom, List.zipIdx_cons, List.map_cons, List.filter_cons, hasContent_iff,
    hskipped]
  split <;> simp_all

theorem contentFrom_append (n : Nat) (before after : List Text) :
    contentFrom n (before ++ after) =
      contentFrom n before ++ contentFrom (n + before.length) after := by
  simp only [contentFrom, List.zipIdx_append, List.map_append, List.filter_append]

theorem contentFrom_dropReturn (lines : List Text) :
    ∀ n : Nat, contentFrom n (lines.map Text.dropReturn) = contentFrom n lines := by
  induction lines with
  | nil => exact fun n => rfl
  | cons line lines ih =>
    intro n
    have hskipped : IsSkipped (Text.dropReturn line) ↔ IsSkipped line := by
      rw [IsSkipped, ← Text.head?_trimStart_trimEnd, Text.trimEnd_dropReturn,
        Text.head?_trimStart_trimEnd, IsSkipped]
    simp only [List.map_cons, contentFrom_cons, hskipped, Text.trimEnd_dropReturn, ih]

/-- The content of lines that were joined to a text. -/
theorem contentLines_join {lines : List Text} (h : ∀ line ∈ lines, '\n' ∉ line) :
    contentLines (Text.join "\n" lines) = contentFrom 0 lines := by
  rcases List.eq_nil_or_concat' lines with rfl | ⟨before, last, rfl⟩
  · rfl
  · -- An empty text behind the last line feed is no line, and would have had no content.
    have hlines := Text.lines_join h
    have hlast : ∀ n, contentFrom n (if last = [] then [] else [last]) = contentFrom n [last] := by
      intro n
      split
      · subst last
        rfl
      · rfl
    calc contentLines (Text.join "\n" (before ++ [last]))
        = contentFrom 0 (Text.lines (Text.join "\n" (before ++ [last]))) := rfl
      _ = contentFrom 0 (before ++ [last]) := by
        rw [hlines, contentFrom_append, contentFrom_append, contentFrom_dropReturn, hlast,
          List.length_map]

theorem source_of_find {files : FileTree} {path content : Text} {modified : Int}
    (h : files.find path = .ok (.file (Utf8.encode content) modified)) :
    source files path = .ok content := by
  have hfile : files.isFile path = true := by simp [FileTree.isFile, h]
  have hread : files.readLossy path = .ok content := by
    simp [FileTree.readLossy, FileTree.read, h, bind, Except.bind, Except.map,
      Utf8.decodeLossy_encode]
  rw [source, if_pos hfile, hread]

/-! ### Actions and details -/

/-- The two sources in fixed columns. -/
inductive Sheet
  | actions
  | details
deriving DecidableEq, Repr

namespace Sheet

/-- The widths of the columns before the last one. -/
def widths : Sheet → List Nat
  | actions => [40, 10]
  | details => [40, 6, 40]

/-- The row on a line. -/
def row : Sheet → Text → Except Text Row
  | actions => actionRow
  | details => detailRow

/-- Reads the source that stands under a name. -/
def read (sheet : Sheet) (files : FileTree) (path : Text) : Except PlanError (List Row) :=
  fixedRows files path sheet.row

/-- A row that the columns can hold, with an action that does not look like a comment, and with a
number where there is to be one. -/
structure Holds (sheet : Sheet) (row : Row) : Prop where
  fits : FitsColumns sheet.widths row
  action : ∃ c name, row.head? = some (c :: name) ∧ c ≠ '#'
  number : sheet = .details → ∀ sequence, row[1]? = some sequence → IsNumber sequence

/-- Lines on which these rows stand in order, up to the blanks at the ends of the lines, with blank
lines and comments anywhere among them. -/
inductive Written (sheet : Sheet) : List Text → List Row → Prop
  | nil : Written sheet [] []
  | skip {line : Text} {lines : List Text} {rows : List Row} (h : IsSkipped line)
      (rest : Written sheet lines rows) : Written sheet (line :: lines) rows
  | row {line : Text} {row : Row} {lines : List Text} {rows : List Row} (h : sheet.Holds row)
      (hline : Text.trimEnd line = Text.trimEnd (inColumns sheet.widths row))
      (rest : Written sheet lines rows) : Written sheet (line :: lines) (row :: rows)

/-- What is wrong with a line: its first 40 characters are blank, or the next six of a detail are no
number up to the blanks around it. -/
inductive Faulty (sheet : Sheet) (line : Text) : Text → Prop
  | noAction (h : ∀ c ∈ line.take 40, isBlank c = true) : Faulty sheet line "action name is empty"
  | noNumber (haction : ∃ c ∈ line.take 40, isBlank c = false) (hsheet : sheet = .details)
      (h : ¬ IsNumber (Text.trim ((line.drop 40).take 6))) :
      Faulty sheet line ("sequence '" ++ Text.trim ((line.drop 40).take 6) ++ "' is not a number")

variable {sheet : Sheet} {line reason : Text}

theorem row_eq (sheet : Sheet) (line : Text) : sheet.row line =
    if column line 0 (some 40) = [] then .error "action name is empty"
    else if sheet = .details ∧ ¬ IsNumber (column line 40 (some 46)) then
      .error ("sequence '" ++ column line 40 (some 46) ++ "' is not a number")
    else .ok (cut line 0 sheet.widths) := by
  cases sheet with
  | actions =>
    rw [if_neg fun h : actions = details ∧ _ => by cases h.1]
    rfl
  | details =>
    have hnumber : (Text.unsigned? 32 (column line 40 (some 46))).isNone = true ↔
        details = details ∧ ¬ IsNumber (column line 40 (some 46)) := by
      rw [← isSome_unsigned?]
      simp
    exact if_congr Iff.rfl rfl (if_congr hnumber rfl rfl)

theorem row_trimEnd (sheet : Sheet) (line : Text) :
    sheet.row (Text.trimEnd line) = sheet.row line := by
  simp only [row_eq, column_trimEnd, cut_trimEnd]

theorem row_eq_error : sheet.row line = .error reason ↔ sheet.Faulty line reason := by
  have haction : column line 0 (some 40) = [] ↔ ∀ c ∈ line.take 40, isBlank c = true :=
    Text.trim_eq_nil_iff
  rw [row_eq]
  constructor
  · intro h
    split_ifs at h with hempty hnumber
    · cases h
      exact .noAction (haction.1 hempty)
    · cases h
      exact .noNumber (by simpa [haction] using hempty) hnumber.1 hnumber.2
  · rintro (hempty | ⟨⟨c, hc, hvisible⟩, hsheet, hnumber⟩)
    · rw [if_pos (haction.2 hempty)]
    · rw [if_neg fun h => by simp [haction.1 h c hc] at hvisible, if_pos ⟨hsheet, hnumber⟩]
      rfl

/-- A row is cut from its line. -/
theorem row_written {row : Row} (h : sheet.Holds row)
    (hline : Text.trimEnd line = Text.trimEnd (inColumns sheet.widths row)) :
    sheet.row line = .ok row := by
  have hcut : cut line 0 sheet.widths = row := by
    rw [← cut_trimEnd, hline, cut_trimEnd]
    exact cut_inColumns h.fits []
  obtain ⟨c, name, hhead, -⟩ := h.action
  have haction : column line 0 (some 40) = c :: name := by
    rw [← hcut] at hhead
    cases sheet <;> exact Option.some.inj hhead
  have hnumber : sheet = .details → IsNumber (column line 40 (some 46)) := by
    rintro rfl
    refine h.number rfl _ ?_
    rw [← hcut]
    rfl
  rw [row_eq, haction, if_neg (by simp), if_neg fun hn => hn.2 (hnumber hn.1), hcut]

/-- The line of a row begins as its first field does. -/
theorem head?_inColumns {widths : List Nat} {row : Row} (h : FitsColumns widths row) {c : Char}
    {name : Text} (hhead : row.head? = some (c :: name)) :
    (Text.trimStart (inColumns widths row)).head? = some c := by
  have hvisible : ∀ {t : Text}, Text.trim (c :: name) = c :: name →
      (Text.trimStart (c :: name ++ t)).head? = some c := by
    intro t htrim
    have hstart := Text.trimStart_trim (c :: name)
    rw [htrim] at hstart
    have hc := Text.isBlank_of_trimStart hstart
    rw [Text.trimStart, List.cons_append, List.dropWhile_cons_of_neg (by simp [hc])]
    rfl
  -- The blanks that fill the first column come behind its field.
  cases h with
  | last htrim =>
    cases hhead
    exact hvisible htrim
  | cons htrim _ _ =>
    cases hhead
    rw [inColumns, Text.padEnd, List.rightpad, List.append_assoc]
    exact hvisible htrim

theorem not_isSkipped_of_written {row : Row} (h : sheet.Holds row)
    (hline : Text.trimEnd line = Text.trimEnd (inColumns sheet.widths row)) :
    ¬ IsSkipped line := by
  obtain ⟨c, name, hhead, hc⟩ := h.action
  rw [IsSkipped, ← Text.head?_trimStart_trimEnd, hline, Text.head?_trimStart_trimEnd,
    head?_inColumns h.fits hhead]
  exact fun hskipped => hc (hskipped c rfl)

/-! ### Whole sources -/

variable {files : FileTree} {path : Text} {lines : List Text}

/-- What the lines of a source are read as when the first has the number `n + 1`. -/
def readFrom (sheet : Sheet) (path : Text) (n : Nat) (lines : List Text) :
    Except PlanError (List Row) :=
  (contentFrom n lines).mapM fun (number, line) =>
    (sheet.row line).mapError fun reason => .malformed path number reason

theorem readFrom_skip (n : Nat) (h : IsSkipped line) :
    sheet.readFrom path n (line :: lines) = sheet.readFrom path (n + 1) lines := by
  rw [readFrom, contentFrom_cons, if_pos h]
  rfl

theorem readFrom_shown (n : Nat) (h : ¬ IsSkipped line) :
    sheet.readFrom path n (line :: lines) = do
      let row ← (sheet.row line).mapError fun reason => .malformed path (n + 1) reason
      let rows ← sheet.readFrom path (n + 1) lines
      return row :: rows := by
  rw [readFrom, contentFrom_cons, if_neg h, List.singleton_append, List.mapM_cons,
    ← row_trimEnd sheet line]
  rfl

theorem readFrom_written {rows : List Row} (h : sheet.Written lines rows) (n : Nat) :
    sheet.readFrom path n lines = .ok rows := by
  induction h generalizing n with
  | nil => rfl
  | skip hskipped _ ih => rw [readFrom_skip n hskipped, ih]
  | row hrow hline _ ih =>
    rw [readFrom_shown n (not_isSkipped_of_written hrow hline), row_written hrow hline, ih]
    rfl

theorem readFrom_faulty {before after : List Text}
    (hbefore : ∀ l ∈ before, IsSkipped l ∨ ∀ r, ¬ sheet.Faulty l r) (hline : ¬ IsSkipped line)
    (hfaulty : sheet.Faulty line reason) (n : Nat) :
    sheet.readFrom path n (before ++ line :: after) =
      .error (.malformed path (n + before.length + 1) reason) := by
  induction before generalizing n with
  | nil =>
    rw [List.nil_append, readFrom_shown n hline, row_eq_error.2 hfaulty]
    rfl
  | cons l before ih =>
    obtain ⟨hl, hbefore⟩ := List.forall_mem_cons.1 hbefore
    have hrest := ih hbefore (n + 1)
    have hnumber : n + (l :: before).length = n + 1 + before.length := by
      rw [List.length_cons]
      omega
    rw [List.cons_append, hnumber]
    by_cases hskipped : IsSkipped l
    · rw [readFrom_skip n hskipped, hrest]
    · rcases hrow : sheet.row l with r | row
      · exact absurd (row_eq_error.1 hrow) (hl.resolve_left hskipped r)
      · rw [readFrom_shown n hskipped, hrow, hrest]
        rfl

theorem read_eq_readFrom {modified : Int}
    (hfile : files.find path = .ok (.file (Utf8.encode (Text.join "\n" lines)) modified))
    (hfeed : ∀ line ∈ lines, '\n' ∉ line) :
    sheet.read files path = sheet.readFrom path 0 lines := by
  rw [read, fixedRows, source_of_find hfile]
  exact congrArg (List.mapM _) (contentLines_join hfeed)

/-- Rows that stand on the lines of a file are read from it, all of them and in order. The first
line with content that is none makes the whole reading fail, and the error names it. When the last
line is empty, the file ends in a line feed. -/
theorem read_back {modified : Int}
    (hfile : files.find path = .ok (.file (Utf8.encode (Text.join "\n" lines)) modified))
    (hfeed : ∀ line ∈ lines, '\n' ∉ line) :
    (∀ rows, sheet.Written lines rows → sheet.read files path = .ok rows) ∧
    ∀ before line after reason, lines = before ++ line :: after →
      (∀ l ∈ before, IsSkipped l ∨ ∀ r, ¬ sheet.Faulty l r) → ¬ IsSkipped line →
      sheet.Faulty line reason →
      sheet.read files path = .error (.malformed path (before.length + 1) reason) := by
  rw [read_eq_readFrom hfile hfeed]
  refine ⟨fun rows h => readFrom_written h 0, ?_⟩
  rintro before line after reason rfl hbefore hline hfaulty
  simpa using readFrom_faulty hbefore hline hfaulty 0

/-- A comment, a row with blanks behind it, a blank line, and a row without blanks between its
fields and with a last field that is missing. -/
def stepLines : List Text :=
  ["# steps",
    Text.padEnd 40 "prüfen" ++ Text.padEnd 6 "+1" ++ Text.padEnd 40 "i_prüfen" ++ "@größe \r",
    " ", List.replicate 40 'x' ++ "000002" ++ List.replicate 40 'y', []]

/-- A row that is fine, a comment, and a line without an action. -/
def namelessLines : List Text :=
  ["close_order", " # next", List.replicate 41 ' ' ++ "proc", "open_order"]

theorem read_back_stepLines :
    let files : FileTree := { entries := [
      (["dtl"], .file (Utf8.encode (Text.join "\n" stepLines)) 0),
      (["act"], .file (Utf8.encode (Text.join "\n" namelessLines)) 0)] }
    details.read files "dtl" = .ok [["prüfen", "+1", "i_prüfen", "@größe"],
      [List.replicate 40 'x', "000002", List.replicate 40 'y', []]] ∧
    actions.read files "act" = .error (.malformed "act" 3 "action name is empty") := by
  intro files
  have hsteps : files.find "dtl" = .ok (.file (Utf8.encode (Text.join "\n" stepLines)) 0) := rfl
  have hnameless : files.find "act" =
      .ok (.file (Utf8.encode (Text.join "\n" namelessLines)) 0) := rfl
  have hfirst : details.Holds ["prüfen", "+1", "i_prüfen", "@größe"] :=
    ⟨.cons (by decide) (by decide) (.cons (by decide) (by decide) (.cons (by decide) (by decide)
      (.last (by decide)))), ⟨'p', "rüfen", rfl, by decide⟩, fun _ _ h => by cases h; decide⟩
  have hsecond : details.Holds [List.replicate 40 'x', "000002", List.replicate 40 'y', []] :=
    ⟨.cons (by decide) (by decide) (.cons (by decide) (by decide) (.cons (by decide) (by decide)
      (.last (by decide)))), ⟨'x', List.replicate 39 'x', rfl, by decide⟩,
      fun _ _ h => by cases h; decide⟩
  constructor
  · refine (read_back hsteps (by decide)).1 _ ?_
    exact .skip (by decide) (.row hfirst (by decide) (.skip (by decide) (.row hsecond (by decide)
      (.skip (by decide) .nil))))
  · have hfine : actions.row "close_order" = .ok ["close_order", "", ""] := by decide
    refine (read_back hnameless (by decide)).2 ["close_order", " # next"] _ ["open_order"] _ rfl
      ?_ (by decide) (.noAction (List.all_eq_true.1 rfl))
    refine List.forall_mem_cons.2
      ⟨.inr fun r h => ?_, List.forall_mem_singleton.2 (.inl (by decide))⟩
    cases hfine.symm.trans (row_eq_error.2 h)

end Sheet

end Metadata

end SqlBuild
