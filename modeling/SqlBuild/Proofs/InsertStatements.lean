import Mathlib.Data.List.Basic
import SqlBuild.SqlServer.Insert
import SqlBuild.Text.Blank

/-!
# Rows in statements

What is written as literals can be read again. A reader of the rows of a statement goes character
by character (`Insert.Place.step`) and knows of a quote in a literal only that another one behind it
belongs to it; whatever a field holds, its literal ends where it was ended (`Insert.read_literal`),
and so the rows come back, and nothing else (`Insert.read_tuples`). The statements for some rows
share them out, a thousand to each but the last (`Insert.exists_shared`).
-/

namespace SqlBuild

namespace SqlServer

namespace Insert

/-! ### Reading the rows of a statement -/

/-- Where a reader of rows stands. -/
inductive Place
  /-- Before a row. -/
  | outside
  /-- Before a field, behind those of the row that have been read. -/
  | before (row : Row)
  /-- In a literal. -/
  | inside (row : Row) (field : Text)
  /-- Behind a quote in a literal, which ends it unless another one follows. -/
  | quoted (row : Row) (field : Text)
  /-- Behind a field. -/
  | behind (row : Row)
  /-- Behind a row. -/
  | closed

namespace Place

/-- What may stand behind a field. -/
def afterField (row : Row) (c : Char) : Option (List Row × Place) :=
  if c = ',' then some ([], before row)
  else if c = ')' then some ([row], closed)
  else if isBlank c then some ([], behind row)
  else none

/-- The row that a character completes, if it does, and where the reader stands behind it. -/
def step : Place → Char → Option (List Row × Place)
  | outside, c =>
    if c = '(' then some ([], before []) else if isBlank c then some ([], outside) else none
  | before row, c =>
    if c = '\x27' then some ([], inside row [])
    else if isBlank c then some ([], before row)
    else none
  | inside row field, c =>
    if c = '\x27' then some ([], quoted row field) else some ([], inside row (field ++ [c]))
  | quoted row field, c =>
    if c = '\x27' then some ([], inside row (field ++ [c])) else afterField (row ++ [field]) c
  | behind row, c => afterField row c
  | closed, c =>
    if c = ',' then some ([], outside) else if isBlank c then some ([], closed) else none

/-- The rows in a text, which is to end behind a row. -/
def read : Place → Text → Option (List Row)
  | closed, [] => some []
  | _, [] => none
  | place, c :: t => (place.step c).bind fun (rows, next) => (next.read t).map (rows ++ ·)

theorem read_cons {place next : Place} {rows : List Row} {c : Char}
    (h : place.step c = some (rows, next)) (t : Text) :
    place.read (c :: t) = (next.read t).map (rows ++ ·) := by
  rw [read, h, Option.bind_some]

/-- Most characters complete no row. -/
theorem read_on {place next : Place} {c : Char} (h : place.step c = some ([], next)) (t : Text) :
    place.read (c :: t) = next.read t := by
  rw [read_cons h]
  exact Option.map_id'

end Place

open Place

/-- Doubled quotes do not lead out of a literal, and every character comes back. -/
theorem read_doubleQuotes (row : Row) (t : Text) : ∀ (done field : Text),
    (inside row done).read (Text.doubleQuotes field ++ t) = (inside row (done ++ field)).read t
  | done, [] => by
    rw [List.append_nil]
    rfl
  | done, c :: field => by
    have ih := read_doubleQuotes row t (done ++ [c]) field
    rw [List.append_assoc, List.singleton_append] at ih
    rw [← ih]
    by_cases hc : c = '\x27'
    · subst hc
      exact (read_on (by rfl) _).trans (read_on (by rfl) _)
    · have hdouble : Text.doubleQuotes (c :: field) = c :: Text.doubleQuotes field := by
        simp [Text.doubleQuotes, Text.replaceChar, hc]
      have hstep : (inside row done).step c = some ([], inside row (done ++ [c])) := if_neg hc
      rw [hdouble]
      exact read_on hstep _

/-- Whatever a field holds, its literal ends where it was ended. -/
theorem read_literal (row : Row) (field t : Text) :
    (before row).read (literal field ++ t) = (quoted row field).read t := by
  have hliteral : literal field ++ t = '\x27' :: (Text.doubleQuotes field ++ '\x27' :: t) := by
    simp [literal]
  rw [hliteral, read_on (by rfl), read_doubleQuotes, List.nil_append]
  exact read_on (by rfl) t

theorem read_literals (t : Text) : ∀ (done : Row) {fields : Row}, fields ≠ [] →
    (before done).read (Text.join ", " (fields.map literal) ++ ')' :: t) =
      (closed.read t).map ((done ++ fields) :: ·)
  | _, [], h => (h rfl).elim
  | done, [field], _ => by
    have hone : Text.join ", " ([field].map literal) = literal field := by simp [Text.join]
    have hclose : (quoted done field).step ')' = some ([done ++ [field]], closed) := rfl
    rw [hone, read_literal]
    exact read_cons hclose t
  | done, field :: next :: fields, _ => by
    have hmore : Text.join ", " ((field :: next :: fields).map literal) ++ ')' :: t =
        literal field ++
          ',' :: ' ' :: (Text.join ", " ((next :: fields).map literal) ++ ')' :: t) := by
      simp [Text.join, List.intercalate_cons_cons]
    have ih := read_literals t (done ++ [field]) (List.cons_ne_nil next fields)
    rw [List.append_assoc, List.singleton_append] at ih
    rw [hmore, read_literal, read_on (by rfl), read_on (by rfl), ih]

theorem read_tuple {row : Row} (h : row ≠ []) (t : Text) :
    outside.read (tuple row ++ t) = (closed.read t).map (row :: ·) := by
  have htuple : tuple row ++ t = '(' :: (Text.join ", " (row.map literal) ++ ')' :: t) := by
    simp [tuple]
  rw [htuple, read_on (by rfl), read_literals t [] h]
  rfl

theorem read_tuples : ∀ {rows : List Row}, rows ≠ [] → (∀ row ∈ rows, row ≠ []) →
    outside.read (Text.join ",\n" (rows.map tuple)) = some rows
  | [], h, _ => (h rfl).elim
  | [row], _, hrows => by
    have hone : Text.join ",\n" ([row].map tuple) = tuple row ++ [] := by simp [Text.join]
    rw [hone, read_tuple (hrows row List.mem_cons_self)]
    rfl
  | row :: next :: rows, _, hrows => by
    obtain ⟨hrow, hrest⟩ := List.forall_mem_cons.1 hrows
    have hmore : Text.join ",\n" ((row :: next :: rows).map tuple) =
        tuple row ++ ',' :: '\n' :: Text.join ",\n" ((next :: rows).map tuple) := by
      simp [Text.join, List.intercalate_cons_cons]
    rw [hmore, read_tuple hrow, read_on (by rfl), read_on (by rfl),
      read_tuples (List.cons_ne_nil next rows) hrest]
    rfl

/-- What every statement for a table and its columns begins with. -/
def opening (table columns : Text) : Text :=
  "insert into " ++ table ++ " (" ++ columns ++ ") values"

theorem heading_eq (table columns : Text) :
    heading table columns = opening table columns ++ ['\n'] :=
  (List.append_assoc (("insert into " : Text) ++ table ++ (" (" : Text) ++ columns)
    (") values" : Text) ['\n']).symm

/-- The rows of a statement for a table and its columns. -/
def readBack? (table columns sql : Text) : Option (List Row) :=
  (Text.after? (opening table columns) sql).bind outside.read

theorem readBack?_statement (table columns : Text) {rows : List Row} (h : rows ≠ [])
    (hrows : ∀ row ∈ rows, row ≠ []) :
    readBack? table columns (statement table columns rows) = some rows := by
  have htext : statement table columns rows =
      opening table columns ++ '\n' :: Text.join ",\n" (rows.map tuple) := by
    rw [statement, heading_eq, List.append_assoc, List.singleton_append]
  have hafter := (Text.after?_eq_some (p := opening table columns)).2 htext
  have hfeed : outside.step '\n' = some ([], outside) := rfl
  rw [readBack?, hafter, Option.bind_some, read_on hfeed, read_tuples h hrows]

/-! ### Sharing out the rows -/

/-- The rows are shared out in order, as many as a statement takes to each share but the last. -/
structure Shared (rows : List Row) (shares : List (List Row)) : Prop where
  flatten : shares.flatten = rows
  full : ∀ share ∈ shares.dropLast, share.length = rowsPerStatement
  last : ∀ share ∈ shares.getLast?, 1 ≤ share.length ∧ share.length ≤ rowsPerStatement

namespace Shared

variable {rows : List Row} {shares : List (List Row)}

theorem nil : Shared [] [] := ⟨rfl, by simp, by simp⟩

/-- A share is not empty. -/
theorem ne_nil (h : Shared rows shares) {share : List Row} (hshare : share ∈ shares) :
    share ≠ [] := by
  obtain ⟨before, last, rfl⟩ :=
    (List.eq_nil_or_concat' shares).resolve_left (List.ne_nil_of_mem hshare)
  have hlast := (h.last last (by simp)).1
  have hfull : ∀ s ∈ before, s.length = rowsPerStatement := by simpa using h.full
  rcases List.mem_append.1 hshare with hin | hin
  · have hlength := hfull share hin
    exact List.length_pos_iff.1 (hlength ▸ by decide)
  · obtain rfl := List.mem_singleton.1 hin
    exact List.length_pos_iff.1 hlast

/-- The first share is what a statement takes. -/
theorem cons (hne : rows ≠ []) (h : Shared (rows.drop rowsPerStatement) shares) :
    Shared rows (rows.take rowsPerStatement :: shares) where
  flatten := by rw [List.flatten_cons, h.flatten, List.take_append_drop]
  full := by
    cases shares with
    | nil => simp
    | cons next shares =>
      have hnext := h.ne_nil List.mem_cons_self
      have hmore : rows.drop rowsPerStatement ≠ [] := by
        rw [← h.flatten, List.flatten_cons]
        exact List.append_ne_nil_of_left_ne_nil hnext _
      have hlong : rowsPerStatement < rows.length := Nat.lt_of_not_le fun hshort =>
        hmore (List.drop_eq_nil_iff.2 hshort)
      rw [List.dropLast_cons_cons]
      exact List.forall_mem_cons.2 ⟨List.length_take_of_le (Nat.le_of_lt hlong), h.full⟩
  last := by
    cases shares with
    | nil =>
      have hpos := List.length_pos_iff.2 hne
      simp only [List.getLast?_singleton, Option.mem_some_iff, forall_eq', List.length_take]
      exact ⟨Nat.le_min.2 ⟨by decide, hpos⟩, Nat.min_le_left _ _⟩
    | cons next shares => exact h.last

theorem length_flatten_of_full : ∀ {shares : List (List Row)},
    (∀ share ∈ shares, share.length = rowsPerStatement) →
      shares.flatten.length = shares.length * rowsPerStatement
  | [], _ => by simp
  | share :: shares, h => by
    obtain ⟨hshare, hrest⟩ := List.forall_mem_cons.1 h
    rw [List.flatten_cons, List.length_append, hshare, length_flatten_of_full hrest,
      List.length_cons, Nat.succ_mul, Nat.add_comm]

/-- How many shares there are. -/
theorem length_eq (h : Shared rows shares) :
    shares.length = (rows.length + (rowsPerStatement - 1)) / rowsPerStatement := by
  rcases List.eq_nil_or_concat' shares with rfl | ⟨before, last, rfl⟩
  · rw [← h.flatten]
    rfl
  · have hlast := h.last last (by simp)
    have hfull : ∀ s ∈ before, s.length = rowsPerStatement := by simpa using h.full
    have hbefore : before.flatten.length = before.length * rowsPerStatement :=
      length_flatten_of_full hfull
    have hrows : rows.length = before.length * rowsPerStatement + last.length := by
      rw [← h.flatten, List.flatten_append, List.length_append, hbefore, List.flatten_singleton]
    rw [hrows, List.length_append, List.length_singleton]
    simp only [rowsPerStatement] at hlast ⊢
    omega

end Shared

theorem draw_rows (count : Nat) (rows : List Row) :
    RowStream.draw count rows = (rows.take count, ↑(rows.drop count)) := by
  unfold RowStream.draw
  split
  · rename_i hshort
    rw [List.take_of_length_le (Nat.le_of_lt hshort), List.drop_of_length_le (Nat.le_of_lt hshort)]
    rfl
  · rfl

/-- Of plain rows a statement takes the first ones and leaves all others. -/
theorem next?_rows (table columns : Text) {rows : List Row} (h : rows ≠ []) :
    next? table columns rows = some ((statement table columns (rows.take rowsPerStatement),
      (rows.take rowsPerStatement).length), ↑(rows.drop rowsPerStatement)) := by
  have htake : rows.take rowsPerStatement ≠ [] := by
    simp [List.take_eq_nil_iff, h, rowsPerStatement]
  rw [next?, draw_rows]
  exact if_neg htake

/-- Each statement has its share of the rows. -/
theorem exists_shared (table columns : Text) (rows : List Row) :
    ∃ shares, Shared rows shares ∧ statements table columns rows =
      shares.map fun share => (statement table columns share, share.length) := by
  by_cases hne : rows = []
  · refine ⟨[], hne ▸ Shared.nil, ?_⟩
    subst hne
    rw [statements]
    rfl
  · obtain ⟨shares, hshared, hrest⟩ :=
      exists_shared table columns (rows.drop rowsPerStatement)
    refine ⟨rows.take rowsPerStatement :: shares, hshared.cons hne, ?_⟩
    have hnext := next?_rows table columns hne
    rw [statements]
    split
    · rename_i hnone
      rw [hnext] at hnone
      cases hnone
    · rename_i part rest hsome
      rw [hnext] at hsome
      obtain ⟨rfl, rfl⟩ := Prod.mk.inj (Option.some.inj hsome)
      rw [hrest, List.map_cons]
termination_by rows.length
decreasing_by
  have hpos := List.length_pos_iff.2 hne
  rw [List.length_drop]
  exact Nat.sub_lt hpos (by decide)

/-- The statements carry the rows. There are as many statements as it takes, all but the last with
as many rows as a statement may have, and a reader finds in them, one after the other, all rows as
they were, whatever quotes, commas, parentheses or line ends their fields hold. -/
theorem statements_carry_rows (table columns : Text) {rows : List Row}
    (hrows : ∀ row ∈ rows, row ≠ []) :
    let parts := statements table columns rows
    let counts := parts.map Prod.snd
    parts.length = (rows.length + (rowsPerStatement - 1)) / rowsPerStatement ∧
      (∀ count ∈ counts.dropLast, count = rowsPerStatement) ∧
      (∀ count ∈ counts.getLast?, 1 ≤ count ∧ count ≤ rowsPerStatement) ∧
      counts.foldr (· + ·) 0 = rows.length ∧
      ∃ shares : List (List Row), shares.flatten = rows ∧ counts = shares.map List.length ∧
        parts.map (fun part => readBack? table columns part.1) = shares.map some := by
  intro parts counts
  obtain ⟨shares, hshared, hparts⟩ := exists_shared table columns rows
  have hcounts : counts = shares.map List.length := by
    rw [show counts = parts.map Prod.snd from rfl, show parts = _ from hparts, List.map_map]
    rfl
  refine ⟨?_, ?_, ?_, ?_, shares, hshared.flatten, hcounts, ?_⟩
  · rw [show parts = _ from hparts, List.length_map, hshared.length_eq]
  · rw [hcounts, ← List.map_dropLast]
    exact List.forall_mem_map.2 hshared.full
  · intro count hcount
    rw [hcounts, List.getLast?_map] at hcount
    obtain ⟨share, hshare, rfl⟩ := Option.map_eq_some_iff.1 hcount
    exact hshared.last share hshare
  · rw [hcounts, ← hshared.flatten, List.length_flatten, List.sum_eq_foldr]
  · rw [show parts = _ from hparts, List.map_map]
    refine List.map_congr_left fun share hshare => ?_
    refine readBack?_statement table columns (hshared.ne_nil hshare) fun row hrow => ?_
    exact hrows row (hshared.flatten ▸ List.mem_flatten.2 ⟨share, hshare, hrow⟩)

/-- One row more than a statement takes, and its fields look like what stands between fields and
rows. -/
def oneMore : List Row :=
  ["'), ('", "''", "a,\r\nb"] :: List.replicate rowsPerStatement ["o'n"]

theorem statements_carry_oneMore :
    let parts := statements "db..t" "[a], [b], [c]" oneMore
    parts.length = 2 ∧ (parts.map Prod.snd).foldr (· + ·) 0 = 1001 ∧
      ∃ shares : List (List Row), shares.flatten = oneMore ∧
        parts.map (fun part => readBack? "db..t" "[a], [b], [c]" part.1) = shares.map some := by
  intro parts
  have hlength : oneMore.length = 1001 := by
    rw [oneMore, List.length_cons, List.length_replicate]
    rfl
  have hrows : ∀ row ∈ oneMore, row ≠ [] := by
    intro row hrow
    rcases List.mem_cons.1 hrow with rfl | hrow
    · simp
    · simp [List.eq_of_mem_replicate hrow]
  obtain ⟨hparts, -, -, hsum, shares, hshares, -, hread⟩ :=
    statements_carry_rows "db..t" "[a], [b], [c]" hrows
  exact ⟨hparts.trans (by rw [hlength]; rfl), hsum.trans hlength, shares, hshares, hread⟩

end Insert

end SqlServer

end SqlBuild
