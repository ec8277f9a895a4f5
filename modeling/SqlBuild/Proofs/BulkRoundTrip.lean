import SqlBuild.Bulk.Copy
import SqlBuild.Proofs.Encoding
import SqlBuild.Proofs.FileTrees
import SqlBuild.Proofs.Rows
import SqlBuild.Rehearsal.MemoryServer

/-!
# Out of one table and into another

A row is written as a line and a line is read as a row, and the two undo each other for rows that
keep tabs to their last field (`Row.Storable.coerce_ofLine`). The bytes of the file give back the
lines (`DataFile.ofBytes_encode`), all but those that are empty, which a load passes over: a row
whose only field is empty is lost, and no other is (`Bulk.round_trip`).
-/

namespace SqlBuild

namespace Row

/-- A row that fits its columns and whose line tells its fields apart. -/
structure Storable (columns : List ColumnInfo) (row : Row) : Prop where
  length : row.length = columns.length
  oneLine : ∀ field ∈ row, '\r' ∉ field ∧ '\n' ∉ field
  tabsLast : ∀ field ∈ row.dropLast, '\t' ∉ field
  numeric : ∀ p ∈ row.zip columns, p.2.isNumeric = true → p.1 ≠ []

instance (columns : List ColumnInfo) (row : Row) : Decidable (Storable columns row) :=
  decidable_of_iff
    (row.length = columns.length ∧ (∀ field ∈ row, '\r' ∉ field ∧ '\n' ∉ field) ∧
      (∀ field ∈ row.dropLast, '\t' ∉ field) ∧
      ∀ p ∈ row.zip columns, p.2.isNumeric = true → p.1 ≠ [])
    ⟨fun ⟨h1, h2, h3, h4⟩ => ⟨h1, h2, h3, h4⟩, fun ⟨h1, h2, h3, h4⟩ => ⟨h1, h2, h3, h4⟩⟩

/-- The line of a row whose fields hold no line ends holds none. -/
theorem oneLine_toLine {row : Row} (h : ∀ field ∈ row, '\r' ∉ field ∧ '\n' ∉ field) :
    '\r' ∉ toLine row ∧ '\n' ∉ toLine row := by
  constructor
  · intro hm
    rcases mem_toLine hm with hc | ⟨field, hf, hc⟩
    · cases hc
    · exact (h field hf).1 hc
  · intro hm
    rcases mem_toLine hm with hc | ⟨field, hf, hc⟩
    · cases hc
    · exact (h field hf).2 hc

theorem ofLine_toLine {row : Row} (h : ∀ field ∈ row, '\r' ∉ field ∧ '\n' ∉ field) :
    ofLine (toLine row) = (toLine row).splitOn '\t' := by
  obtain ⟨hreturn, hfeed⟩ := oneLine_toLine h
  rw [ofLine, Text.dropEndWhile_eq_self]
  intro c hc
  have hr : c ≠ '\r' := fun heq => hreturn (heq ▸ hc)
  have hn : c ≠ '\n' := fun heq => hfeed (heq ▸ hc)
  simp [hr, hn]

section

variable {columns : List ColumnInfo} {row : Row}

theorem Storable.ne_nil (h : Storable columns row) (hne : columns ≠ []) : row ≠ [] := by
  rintro rfl
  exact hne (List.length_eq_zero_iff.1 h.length.symm)

theorem Storable.normal (h : Storable columns row) : Normal columns row := by
  refine ⟨h.length, h.tabsLast, fun c hc => ?_, h.numeric⟩
  have hmem := List.mem_of_getLast? (Option.mem_def.1 hc)
  obtain ⟨hreturn, hfeed⟩ := oneLine_toLine h.oneLine
  have hr : c ≠ '\r' := fun heq => hreturn (heq ▸ hmem)
  have hn : c ≠ '\n' := fun heq => hfeed (heq ▸ hmem)
  simp [isLineEnd, hr, hn]

/-- A row is read back from its line. -/
theorem Storable.coerce_ofLine (h : Storable columns row) (hne : columns ≠ []) :
    coerce columns (ofLine (toLine row)) = row := by
  have hread := h.normal.coerce_ofLine hne (List.forall_mem_nil _)
  rwa [List.append_nil] at hread

end

end Row

namespace DataFile

theorem ofPieces_encode : ∀ {pieces : List Text}, pieces ≠ [] →
    ofPieces (pieces.map Utf8.encode) =
      { lines := pieces.dropLast.map Text.dropReturn ++
          (if pieces.getLast?.getD [] = [] then [] else [pieces.getLast?.getD []]) }
  | [], h => absurd rfl h
  | [last], _ => by
    -- No line feed follows the last piece: it is a line when it is not empty.
    rw [List.map_singleton, ofPieces]
    by_cases hlast : last = []
    · rw [hlast]
      rfl
    · simp [Utf8.encode_eq_nil_iff, hlast, Utf8.decode_encode]
  | piece :: next :: pieces, _ => by
    have ih := ofPieces_encode (List.cons_ne_nil next pieces)
    rw [List.map_cons] at ih
    rw [List.map_cons, List.map_cons, ofPieces, ih]
    · simp [Utf8.decode_encode]
    · simp

/-- The file that a text is written to has its lines. -/
theorem ofBytes_encode (t : Text) : ofBytes (Utf8.encode t) = ofText t := by
  rw [ofBytes, Utf8.splitOn_encode, ofPieces_encode (List.splitOn_ne_nil _ _)]
  rfl

/-- The rows whose lines are not empty. -/
def kept (rows : List Row) : List Row := rows.filter (· ≠ [[]])

theorem kept_eq_self_iff {rows : List Row} : kept rows = rows ↔ [[]] ∉ rows := by
  rw [kept, List.filter_eq_self]
  constructor
  · intro h hm
    simpa using h _ hm
  · intro h row hrow
    have hne : row ≠ [[]] := fun heq => h (heq ▸ hrow)
    simpa using hne

theorem rowsOn_toLine {columns : List ColumnInfo} (hne : columns ≠ []) : ∀ {rows : List Row},
    (∀ row ∈ rows, Row.Storable columns row) → rowsOn (rows.map Row.toLine) columns = kept rows
  | [], _ => rfl
  | row :: rows, h => by
    have hrow := h row List.mem_cons_self
    have hempty := Row.toLine_eq_nil_iff (hrow.ne_nil hne)
    have ih := rowsOn_toLine hne fun r hr => h r (List.mem_cons_of_mem _ hr)
    unfold rowsOn kept at ih ⊢
    rw [List.map_cons]
    -- Both filters keep the row or both drop it.
    by_cases hlost : row = [[]]
    · rw [List.filter_cons_of_neg (by simpa [hempty] using hlost), ih,
        List.filter_cons_of_neg (by simpa using hlost)]
    · rw [List.filter_cons_of_pos (by simpa [hempty] using hlost), List.map_cons,
        hrow.coerce_ofLine hne, ih, List.filter_cons_of_pos (by simpa using hlost)]

/-- A file that rows were written to has a line for each. -/
theorem lines_unlines_toLine {rows : List Row}
    (h : ∀ row ∈ rows, ∀ field ∈ row, '\r' ∉ field ∧ '\n' ∉ field) :
    Text.lines (Text.unlines (rows.map Row.toLine)) = rows.map Row.toLine := by
  have hfeed : ∀ line ∈ rows.map Row.toLine, '\n' ∉ line := by
    intro line hline
    obtain ⟨row, hrow, rfl⟩ := List.mem_map.1 hline
    exact (Row.oneLine_toLine (h row hrow)).2
  have hreturn : ∀ row ∈ rows, Text.dropReturn (Row.toLine row) = Row.toLine row :=
    fun row hrow => Text.dropReturn_eq_self (Row.oneLine_toLine (h row hrow)).1
  rw [Text.lines_unlines hfeed, List.map_map]
  exact List.map_congr_left hreturn

/-- What a load draws from a file that rows were written to. -/
theorem stream_unlines {columns : List ColumnInfo} (hne : columns ≠ []) {rows : List Row}
    (h : ∀ row ∈ rows, Row.Storable columns row) :
    (ofText (Text.unlines (rows.map Row.toLine))).stream columns = kept rows := by
  rw [ofText, stream, lines_unlines_toLine fun row hrow => (h row hrow).oneLine,
    rowsOn_toLine hne h, List.map_nil]

end DataFile

/-- A host whose tables, as far as `table?` shows them, are unloaded as they are and loaded with the
rows as they are given. -/
structure Host.KeepsTables {σ : Type} (host : Host σ)
    (table? : σ → Text → Option (List ColumnInfo × List Row)) : Prop where
  columns : ∀ {s name columns rows}, table? s name = some (columns, rows) →
    ∃ s', host.answer (.columns name) s = ((.ok columns : Except ExecError _), s') ∧
      table? s' = table? s
  unload : ∀ {s name columns rows}, table? s name = some (columns, rows) →
    ∃ s', host.answer (.unload name) s = ((⟨rows, .ok rows.length⟩ : Unloaded), s') ∧
      table? s' = table? s
  load : ∀ {s name columns rows}, table? s name = some (columns, rows) → ∀ added : List Row,
    ∃ s', host.answer (.load name columns added) s =
        ((⟨added.length, .ok added.length⟩ : Transfer), s') ∧
      table? s' name = some (columns, rows ++ added)

namespace Rehearsal

namespace MemoryServer

/-- The tables that loads are not refused for. -/
def open? (server : MemoryServer) (name : Text) : Option (List ColumnInfo × List Row) :=
  if server.refusedTables.contains name then none
  else (server.table? name).map fun t => (t.columns, t.rows)

theorem table?_mapRows (server : MemoryServer) (name : Text) (f : List Row → List Row) :
    (server.mapRows name f).table? name =
      (server.table? name).map fun t => { t with rows := f t.rows } := by
  have hfind : ∀ tables : List Table,
      (tables.map fun t => if t.name = name then { t with rows := f t.rows } else t).find?
          (·.name = name) =
        (tables.find? (·.name = name)).map fun t => { t with rows := f t.rows } := by
    intro tables
    induction tables with
    | nil => rfl
    | cons t tables ih =>
      rw [List.map_cons]
      by_cases ht : t.name = name
      · rw [if_pos ht, List.find?_cons_of_pos (by simpa using ht),
          List.find?_cons_of_pos (by simpa using ht), Option.map_some]
      · rw [if_neg ht, List.find?_cons_of_neg (by simpa using ht),
          List.find?_cons_of_neg (by simpa using ht), ih]
  exact hfind server.tables

theorem open?_eq_some {server : MemoryServer} {name : Text} {columns : List ColumnInfo}
    {rows : List Row} (h : server.open? name = some (columns, rows)) :
    server.refusedTables.contains name = false ∧
      ∃ t, server.table? name = some t ∧ t.columns = columns ∧ t.rows = rows := by
  unfold open? at h
  split at h
  · cases h
  · rename_i hrefused
    obtain ⟨t, ht, heq⟩ := Option.map_eq_some_iff.1 h
    rw [Prod.mk.injEq] at heq
    exact ⟨by simpa using hrefused, t, ht, heq⟩

theorem load_of_open {server : MemoryServer} {name : Text} {t : Table}
    (hrefused : server.refusedTables.contains name = false) (ht : server.table? name = some t)
    (columns : List ColumnInfo) (added : List Row) :
    server.load name columns added = (⟨added.length, .ok added.length⟩,
      (server.note (.load name (columns.map (·.name)) added)).mapRows name (· ++ added)) := by
  have hnoted : (server.note (.load name (columns.map (·.name)) added)).table? name = some t := ht
  simp only [load, hrefused, hnoted, Bool.false_eq_true, if_false]

theorem keepsTables : host.KeepsTables open? where
  columns := by
    intro server name columns rows h
    obtain ⟨-, t, ht, rfl, -⟩ := open?_eq_some h
    have hcolumns : ((server.table? name).map (·.columns)).getD [] = t.columns := by rw [ht]; rfl
    exact ⟨server.note (.columns name), Prod.ext (congrArg Except.ok hcolumns) rfl, rfl⟩
  unload := by
    intro server name columns rows h
    obtain ⟨-, t, ht, -, rfl⟩ := open?_eq_some h
    have hrows : server.unload name = ⟨t.rows, .ok t.rows.length⟩ := by rw [unload, ht]
    exact ⟨server.note (.unload name), Prod.ext hrows rfl, rfl⟩
  load := by
    intro server name columns rows h added
    obtain ⟨hrefused, t, ht, rfl, rfl⟩ := open?_eq_some h
    have hopen : ¬ server.refusedTables.contains name = true := by rw [hrefused]; simp
    refine ⟨_, load_of_open hrefused ht t.columns added, ?_⟩
    have hnoted : (server.note (.load name (t.columns.map (·.name)) added)).table? name = some t :=
      ht
    rw [open?, table?_mapRows, hnoted]
    exact if_neg hopen

end MemoryServer

end Rehearsal

namespace Bulk

open DataFile (kept kept_eq_self_iff)

section

variable {σ : Type} {host : Host σ} {table? : σ → Text → Option (List ColumnInfo × List Row)}
variable {files files' : FileTree} {now : Int} {path name : Text}
variable {columns : List ColumnInfo} {rows before : List Row} {s : σ}

/-- An unload leaves the lines of the rows in the file. -/
theorem exec_unload (h : host.KeepsTables table?) (hwrite : files.write path [] now = .ok files')
    (htable : table? s name = some (columns, rows)) :
    ∃ written s', (unload files now name path).exec host s =
        ((written, ⟨rows.length, .ok rows.length⟩), s') ∧
      DataFile.find written path = .ok (.ofText (Text.unlines (rows.map Row.toLine))) ∧
      table? s' = table? s := by
  obtain ⟨s', hanswer, hsame⟩ := h.unload htable
  obtain ⟨written, hwritten⟩ := FileTree.exists_write_of_write hwrite
    (Utf8.encode (Text.unlines (rows.map Row.toLine))) now
  -- The file is made empty before the rows are asked for, and written a second time with them.
  refine ⟨written, s', ?_, ?_, hsame⟩
  · simp only [unload, hwrite, Run.act, Run.ask_bind, Run.done_bind, Run.pure_eq, Run.exec_ask,
      Run.exec_done, hanswer, hwritten, Except.toOption, Option.getD_some]
  · rw [DataFile.find, FileTree.find_written hwritten]
    exact congrArg Except.ok (DataFile.ofBytes_encode _)

/-- A load adds the rows of a file that can be read to its end. -/
theorem exec_load (h : host.KeepsTables table?) (hne : columns ≠ [])
    (htable : table? s name = some (columns, before)) {file : DataFile}
    (hstream : file.stream columns = rows) (hread : file.failure = none) :
    ∃ s', (load name (.ok file)).exec host s = (⟨rows.length, .ok rows.length⟩, s') ∧
      table? s' name = some (columns, before ++ rows) := by
  obtain ⟨s₁, hcolumns, hsame⟩ := h.columns htable
  obtain ⟨s₂, hload, hadded⟩ := h.load (by rw [hsame, htable]) rows
  -- The type of the answer depends on the action, so the law is brought to the action's form.
  rw [← hstream] at hload
  have hfirst : (Exec.columns name).run.exec host s = (.ok columns, s₁) := hcolumns
  refine ⟨s₂, ?_, hadded⟩
  rw [load, Run.exec_bind, hfirst]
  simp only [if_neg hne, Run.act, Run.ask_bind, Run.done_bind, Run.exec_ask, hload, hread,
    Run.pure_eq]
  rfl

end

/-- Unloads a table into a file and loads the file into another. -/
def thereAndBack (files : FileTree) (now : Int) (source target path : Text) :
    Run (Transfer × Transfer) := do
  let (files, there) ← copy files now source .out path
  let (_, back) ← copy files now target .into path
  return (there, back)

section

variable {σ : Type} {host : Host σ} {table? : σ → Text → Option (List ColumnInfo × List Row)}
variable {files created : FileTree} {now : Int} {source target path : Text}
variable {columns : List ColumnInfo} {rows : List Row} {s : σ}

theorem exec_thereAndBack (h : host.KeepsTables table?) (hne : columns ≠ [])
    (hrows : ∀ row ∈ rows, Row.Storable columns row)
    (hsource : table? s source = some (columns, rows))
    (htarget : table? s target = some (columns, []))
    (hfile : files.write path [] now = .ok created) :
    ∃ s', (thereAndBack files now source target path).exec host s =
        ((⟨rows.length, .ok rows.length⟩, ⟨(kept rows).length, .ok (kept rows).length⟩), s') ∧
      table? s' target = some (columns, kept rows) := by
  obtain ⟨written, s₁, hthere, hfound, hsame⟩ := exec_unload h hfile hsource
  have hstream := DataFile.stream_unlines hne hrows
  obtain ⟨s₂, hback, hloaded⟩ := exec_load h hne (by rw [hsame, htarget]) hstream rfl
  refine ⟨s₂, ?_, hloaded⟩
  simp only [thereAndBack, copy, Run.exec_bind, hthere, hfound, hback, Run.pure_eq, Run.exec_done]

/-- The rows come back as they were, in their order, unless one of them is a single empty field. -/
theorem round_trip (h : host.KeepsTables table?) (hne : columns ≠ [])
    (hrows : ∀ row ∈ rows, Row.Storable columns row)
    (hsource : table? s source = some (columns, rows))
    (htarget : table? s target = some (columns, []))
    (hfile : files.write path [] now = .ok created) :
    ∃ s' loaded, (thereAndBack files now source target path).exec host s =
        ((⟨rows.length, .ok rows.length⟩, ⟨loaded.length, .ok loaded.length⟩), s') ∧
      table? s' target = some (columns, loaded) ∧ loaded = rows.filter (· ≠ [[]]) ∧
      (loaded = rows ↔ [[]] ∉ rows) ∧ (2 ≤ columns.length → loaded = rows) := by
  obtain ⟨s', hrun, hloaded⟩ := exec_thereAndBack h hne hrows hsource htarget hfile
  have hwhole : 2 ≤ columns.length → [[]] ∉ rows := by
    intro hmany hlone
    have hlength := (hrows _ hlone).length
    rw [List.length_singleton] at hlength
    omega
  exact ⟨s', kept rows, hrun, hloaded, rfl, kept_eq_self_iff,
    fun hmany => kept_eq_self_iff.2 (hwhole hmany)⟩

end

section

open Rehearsal

/-- A column of numbers and one of texts. -/
def numbered : List ColumnInfo := [⟨"id", "int"⟩, ⟨"note", "varchar"⟩]

def numberedRows : List Row := [["1", "a\tb"], ["2", ""]]

/-- A single column of texts. -/
def notes : List ColumnInfo := [⟨"note", "varchar"⟩]

def noteRows : List Row := [["x"], [""], ["y"]]

/-- A table and an empty one with the same columns. -/
def twoTables (columns : List ColumnInfo) (rows : List Row) : MemoryServer :=
  { tables := [⟨"db..a", columns, rows⟩, ⟨"db..b", columns, []⟩] }

theorem exists_write : ∃ created, ({} : FileTree).write "a.dat" [] 0 = .ok created :=
  exists_eq_ok (by decide +kernel)

theorem open?_twoTables (columns : List ColumnInfo) (rows : List Row) :
    (twoTables columns rows).open? "db..a" = some (columns, rows) ∧
      (twoTables columns rows).open? "db..b" = some (columns, []) :=
  ⟨rfl, rfl⟩

theorem round_trip_numbered : ∃ s',
    (thereAndBack {} 0 "db..a" "db..b" "a.dat").exec MemoryServer.host
      (twoTables numbered numberedRows) = ((⟨2, .ok 2⟩, ⟨2, .ok 2⟩), s') ∧
    s'.open? "db..b" = some (numbered, numberedRows) := by
  obtain ⟨created, hfile⟩ := exists_write
  obtain ⟨hsource, htarget⟩ := open?_twoTables numbered numberedRows
  have hrows : ∀ row ∈ numberedRows, Row.Storable numbered row := by decide +kernel
  obtain ⟨s', loaded, hrun, hloaded, -, -, hwhole⟩ :=
    round_trip MemoryServer.keepsTables (by decide) hrows hsource htarget hfile
  obtain rfl := hwhole (by decide)
  exact ⟨s', hrun, hloaded⟩

/-- A note that is empty is not loaded again. -/
theorem round_trip_loses_note : notes ≠ [] ∧ (∀ row ∈ noteRows, Row.Storable notes row) ∧
    (twoTables notes noteRows).open? "db..a" = some (notes, noteRows) ∧
    (twoTables notes noteRows).open? "db..b" = some (notes, []) ∧
    ∃ s', (thereAndBack {} 0 "db..a" "db..b" "a.dat").exec MemoryServer.host
        (twoTables notes noteRows) = ((⟨3, .ok 3⟩, ⟨2, .ok 2⟩), s') ∧
      s'.open? "db..b" = some (notes, [noteRows[0], noteRows[2]]) := by
  have hne : notes ≠ [] := by decide
  have hrows : ∀ row ∈ noteRows, Row.Storable notes row := by decide +kernel
  obtain ⟨created, hfile⟩ := exists_write
  obtain ⟨hsource, htarget⟩ := open?_twoTables notes noteRows
  exact ⟨hne, hrows, hsource, htarget,
    exec_thereAndBack MemoryServer.keepsTables hne hrows hsource htarget hfile⟩

end

end Bulk

end SqlBuild
