import SqlBuild.Proofs.MatchingRuns
import SqlBuild.Proofs.Orderly
import SqlBuild.Proofs.ScratchFiles
import SqlBuild.Run.Compiler

/-!
# Rows on their way to a work table

The rows of a compiler go through a data file: a row is a line of fields without tabs and line ends,
which is read as the same fields (`Compiler.ofLine_sanitized`) and is not empty when it has more
than one. So each row is handed over once, in its place, and only fitted to the columns of the table
(`Compiler.loadTable_hands_over`), provided that there is a data file.
-/

namespace SqlBuild

/-- What becomes of the result plays no part in what is asked. -/
theorem Run.trace_map {σ α β : Type} (host : Host σ) (f : α → β) (r : Run α) (s : σ) :
    (f <$> r).trace host s = r.trace host s := by
  rw [map_eq_pure_bind, trace_bind]
  exact List.append_nil _

namespace Compiler

theorem plain_of_mem_sanitize {field : Text} {c : Char} (h : c ∈ sanitize field) :
    c ≠ '\t' ∧ c ≠ '\r' ∧ c ≠ '\n' := by
  obtain ⟨d, -, rfl⟩ := List.mem_map.1 h
  split_ifs with hd
  · decide
  · simpa using hd

section

variable {row : Row}

theorem oneLine_sanitized (row : Row) :
    ∀ field ∈ row.map sanitize, '\r' ∉ field ∧ '\n' ∉ field := by
  intro field hfield
  obtain ⟨given, -, rfl⟩ := List.mem_map.1 hfield
  exact ⟨fun h => (plain_of_mem_sanitize h).2.1 rfl, fun h => (plain_of_mem_sanitize h).2.2 rfl⟩

/-- The fields of a row are read back from its line. -/
theorem ofLine_sanitized (h : row ≠ []) :
    Row.ofLine (Row.toLine (row.map sanitize)) = row.map sanitize := by
  have htab : ∀ field ∈ row.map sanitize, '\t' ∉ field := by
    intro field hfield
    obtain ⟨given, -, rfl⟩ := List.mem_map.1 hfield
    exact fun htab => (plain_of_mem_sanitize htab).1 rfl
  rw [Row.ofLine_toLine (oneLine_sanitized row)]
  exact List.splitOn_intercalate '\t' htab (by simpa using h)

/-- A row that fits the table stays as it is. -/
theorem coerce_sanitized {columns : List ColumnInfo} (hlength : row.length = columns.length)
    (htext : ∀ column ∈ columns, column.isNumeric = false) :
    Row.coerce columns (row.map sanitize) = row.map sanitize := by
  have hcount : (row.map sanitize).length = columns.length := by simpa using hlength
  have hfit : Row.fit columns.length (row.map sanitize) = row.map sanitize := by
    rw [Row.fit, if_pos hcount.le, hcount, Nat.sub_self]
    exact List.append_nil _
  rw [Row.coerce, hfit]
  refine Row.fill_eq_self hcount fun p hp hnumeric => ?_
  rw [htext p.2 (List.of_mem_zip hp).2] at hnumeric
  cases hnumeric

end

section

variable {rows : List Row}

theorem lines_dataText (rows : List Row) :
    Text.lines (dataText rows) = (rows.map (·.map sanitize)).map Row.toLine := by
  rw [← DataFile.lines_unlines_toLine, dataText, List.map_map]
  · rfl
  · intro row hrow
    obtain ⟨given, -, rfl⟩ := List.mem_map.1 hrow
    exact oneLine_sanitized given

/-- What a load draws from the data file of rows with more than one field. -/
theorem stream_dataText (h : ∀ row ∈ rows, 2 ≤ row.length) (columns : List ColumnInfo) :
    (DataFile.ofText (dataText rows)).stream columns =
      (rows.map fun row => Row.coerce columns (row.map sanitize) : List Row) := by
  have hlong : ∀ row ∈ rows, 2 ≤ (row.map sanitize).length := by simpa using h
  -- No line is empty: there is a tab between the first field and the second.
  have hfull : ∀ line ∈ (rows.map (·.map sanitize)).map Row.toLine, line ≠ [] := by
    simp only [List.forall_mem_map]
    intro row hrow hempty
    have hlength := hlong row hrow
    have hne : row.map sanitize ≠ [] := List.length_pos_iff.1 (by omega)
    rw [(Row.toLine_eq_nil_iff hne).1 hempty] at hlength
    simp at hlength
  have hread : ∀ row ∈ rows, Row.coerce columns (Row.ofLine (Row.toLine (row.map sanitize))) =
      Row.coerce columns (row.map sanitize) := by
    intro row hrow
    rw [ofLine_sanitized (List.length_pos_iff.1 (by have := h row hrow; omega))]
  rw [DataFile.ofText, DataFile.stream, lines_dataText, DataFile.rowsOn,
    List.filter_eq_self.2 fun line hline => by simpa using hfull line hline, List.map_map,
    List.map_map]
  exact congrArg (RowStream.mk · []) (List.map_congr_left hread)

end

section

variable {σ : Type} {host : Host σ} {table : Text} {rows : List Row} {columns : List ColumnInfo}
variable {ctx : Context} {text name : Text} {files : FileTree} {s s₁ s₂ : σ}

theorem exec_batch {sql : Text} {s' : σ}
    (h : host.answer (.batch sql) s = ((.ok text : BatchResult), s')) :
    (Exec.batch sql).run.exec host s = (.ok text, s') ∧
      ((Exec.batch sql).run.trace host s).map Event.action = [.batch sql] := by
  have hfirst : (Run.batch sql).exec host s = (.ok text, s') := h
  have hasked : ((Run.batch sql).trace host s).map Event.action = [.batch sql] := rfl
  obtain ⟨next, hrun, hnext⟩ : ∃ next : BatchResult → Run (Except ExecError Text),
      (Exec.batch sql).run = Run.batch sql >>= next ∧ next (.ok text) = .done (.ok text) :=
    ⟨_, ExceptT.run_bind_lift _ _, rfl⟩
  constructor
  · rw [hrun, Run.exec_bind, hfirst, hnext, Run.exec_done]
  · rw [hrun, Run.trace_bind, List.map_append, hasked, hfirst, hnext]
    rfl

/-- A load asks for the columns, and hands over the rows of the file when there are some. -/
theorem trace_load (file : DataFile) {s' : σ}
    (h : host.answer (.columns table) s = ((.ok columns : Except ExecError _), s'))
    (hne : columns ≠ []) :
    ((Bulk.load table (.ok file)).trace host s).map Event.action =
      [.columns table, .load table columns (file.stream columns)] := by
  have hfirst : (Exec.columns table).run.exec host s = (.ok columns, s') := h
  have hasked : ((Exec.columns table).run.trace host s).map Event.action = [.columns table] := rfl
  rw [Bulk.load, Run.trace_bind, List.map_append, hasked, hfirst]
  simp only [if_neg hne]
  rw [Run.trace_bind, List.map_append]
  refine congrArg (_ :: _ :: ·) ?_
  generalize (Run.act _).exec host s' = after
  obtain ⟨⟨moved, result⟩, after⟩ := after
  cases result <;> cases file.failure <;> rfl

/-- In order, and as often as they are given, the rows are handed over with blanks in place of their
tabs and line ends and fitted to the columns. A row of as many texts as there are columns keeps
its fields. -/
theorem loadTable_hands_over (hrows : ∀ row ∈ rows, 2 ≤ row.length)
    (hdata : ctx.scratch.Holds .rows (dataText rows) name files)
    (hdelete : host.answer (.batch ("delete from " ++ table)) s = ((.ok text : BatchResult), s₁))
    (hcolumns : host.answer (.columns table) s₁ = ((.ok columns : Except ExecError _), s₂))
    (hne : columns ≠ []) :
    ((loadTable ctx table rows).run.trace host s).map Event.action =
      [.batch ("delete from " ++ table), .columns table, .load table columns
        (rows.map fun row => Row.coerce columns (row.map sanitize) : List Row)] ∧
    ∀ row ∈ rows, row.length = columns.length →
      (∀ column ∈ columns, column.isNumeric = false) →
      Row.coerce columns (row.map sanitize) = row.map sanitize := by
  refine ⟨?_, fun row _ hlength htext => coerce_sanitized hlength htext⟩
  have hload := trace_load (DataFile.ofText (dataText rows)) hcolumns hne
  rw [stream_dataText hrows] at hload
  obtain ⟨hcleared, hasked⟩ := exec_batch hdelete
  rw [loadTable, ExceptT.run_bind, Run.trace_bind, List.map_append, hasked, hcleared]
  simp only [fillTable_eq hdata.1, hdata.findData, ExceptT.run_map, Run.trace_map, Exec.ofRun]
  refine congrArg (_ :: ·) (Eq.trans (congrArg (List.map Event.action) ?_) hload)
  exact Run.trace_map host Transfer.result _ s₁

end

section

open Rehearsal

/-- A tree with a directory for scratch files. -/
def emptyTree : Context :=
  let env : Environment :=
    { name := "dev", host := "dbhost", port := none, user := "sa", password := "secret",
      platform := .mssql, company := "101", language := "1", root := "/sql", rawMode := false,
      named := true }
  { env
    options := { env, maxAge := 0 }
    files := { entries := [(["tmp"], .directory)] } }

/-- A work table of texts, with what an earlier load left in it. -/
def messageTable : MemoryServer :=
  { tables := [⟨"w_messages", [⟨"code", "char"⟩, ⟨"message", "varchar"⟩], [["0", "old"]]⟩] }

theorem loadTable_hands_over_messages :
    let rows : List Row := [["1", "not\tfound"], ["", "two\r\nlines"], ["\n", ""]]
    let columns : List ColumnInfo := [⟨"code", "char"⟩, ⟨"message", "varchar"⟩]
    ((loadTable emptyTree "w_messages" rows).run.trace MemoryServer.host messageTable).map
        Event.action =
      [.batch "delete from w_messages", .columns "w_messages", .load "w_messages" columns
        ([["1", "not found"], ["", "two  lines"], [" ", ""]] : List Row)] ∧
    Row.coerce columns ["", "two  lines"] = ["", "two  lines"] := by
  intro rows columns
  obtain ⟨files, hdata⟩ :=
    @Scratch.holds_inDirectory .rows emptyTree.files "/tmp" (by decide) (dataText rows)
  obtain ⟨hasked, hsame⟩ := @loadTable_hands_over MemoryServer MemoryServer.host "w_messages" rows
    columns emptyTree _ _ _ messageTable _ _ (by decide) hdata rfl rfl (by decide)
  exact ⟨hasked, hsame ["", "two\r\nlines"] (by decide) rfl (by decide)⟩

end

end Compiler

end SqlBuild
