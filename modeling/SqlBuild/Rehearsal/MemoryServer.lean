import SqlBuild.Run.Basic

/-!
# A server in memory

A server for rehearsals. It keeps tables and the upgrades that have been applied, understands a
batch as far as runs depend on it, answers everything else from a script, and keeps a log of what it
was asked. The script says which texts fail, what is printed for which, and when the run is
cancelled; of several entries that fit, the first counts.
-/

namespace SqlBuild

namespace Rehearsal

/-- What the server was asked, together with the database it was asked in. -/
inductive Asked
  | connect (database : Option Text)
  | batch (database : Option Text) (sql : Text)
  | call (database : Option Text) (call : Text)
  | columns (table : Text)
  | load (table : Text) (columns : List Text) (rows : List Row)
  /-- A load that was refused before its first row. -/
  | refusedLoad (table : Text)
  | unload (table : Text)
  | disconnect
deriving DecidableEq, Repr

structure Table where
  name : Text
  columns : List ColumnInfo := []
  rows : List Row := []
deriving DecidableEq, Repr

structure MemoryServer where
  tables : List Table := []
  applied : List Text := []
  /-- Batches that fail: what occurs in them, and what they print before. -/
  failing : List (Text × Text) := []
  /-- What batches print. -/
  replies : List (Text × Text) := []
  /-- The return codes of calls, or why they fail. -/
  codes : List (Text × Except Text Int) := []
  /-- What occurs in batches that cancel the run. -/
  cancelling : List Text := []
  refusedDatabases : List (Option Text) := []
  refusedTables : List Text := []
  closeFails : Bool := false
  printFails : Bool := false
  database : Option Text := none
  cancelled : Bool := false
  /-- What the server was asked, latest first. -/
  log : List Asked := []
  /-- What was printed, latest first. -/
  printed : List Text := []
  /-- The warnings, latest first. -/
  warnings : List Text := []

/-- The first entry whose text occurs in `t`. -/
def firstIn {α : Type} (t : Text) (entries : List (Text × α)) : Option (Text × α) :=
  entries.find? fun entry => Text.contains t entry.1

/-- The text between the last two quotes. -/
def lastLiteral (t : Text) : Text :=
  match (t.splitOn '\x27').reverse with
  | _ :: literal :: _ :: _ => literal
  | _ => []

namespace MemoryServer

def note (server : MemoryServer) (asked : Asked) : MemoryServer :=
  { server with log := asked :: server.log }

def table? (server : MemoryServer) (name : Text) : Option Table :=
  server.tables.find? (·.name = name)

def mapRows (server : MemoryServer) (name : Text) (f : List Row → List Row) : MemoryServer :=
  { server with
    tables := server.tables.map fun t => if t.name = name then { t with rows := f t.rows } else t }

/-- What an accepted batch changes. -/
def apply (server : MemoryServer) (sql : Text) : MemoryServer :=
  let t := Text.trim sql
  let l := Text.lower t
  if Text.startsWith l "use " then { server with database := some (Text.trim (l.drop 4)) }
  else if Text.startsWith l "delete from " then server.mapRows (Text.trim (t.drop 12)) fun _ => []
  else if Text.contains l "end_dt" ∧ Text.contains l "upgrade_no" then
    { server with applied := server.applied ++ [lastLiteral t] }
  else server

/-- What an accepted batch prints. -/
def reply (server : MemoryServer) (sql : Text) : Text :=
  match firstIn sql server.replies with
  | some (_, text) => text
  | none => "ok: " ++ ((Text.lines (Text.trim sql)).head?.getD [])

def batch (server : MemoryServer) (sql : Text) : BatchResult × MemoryServer :=
  let server := server.note (.batch server.database sql)
  let server :=
    if server.cancelling.any (Text.contains sql ·) then { server with cancelled := true }
    else server
  match firstIn sql server.failing with
  | some (pattern, output) =>
    (.error ⟨"Msg 50000, Level 16, State 1\nfailed on " ++ pattern, output⟩, server)
  | none => (.ok (server.reply sql), server.apply sql)

/-- The answer to a call. -/
def code (server : MemoryServer) (call : Text) : Except ExecError Int :=
  match firstIn call server.codes with
  | some (_, .error reason) => .error (.server reason)
  | some (_, .ok code) => .ok code
  | none =>
    let isChecked := Text.contains call "upgrade_check"
    .ok (if isChecked && server.applied.contains (lastLiteral call) then 2 else 0)

/-- The complaint about a table that is not there. -/
def noTable (name : Text) : ExecError := .server ("no table " ++ name)

def load (server : MemoryServer) (name : Text) (columns : List ColumnInfo) (rows : List Row) :
    Transfer × MemoryServer :=
  if server.refusedTables.contains name then
    (⟨0, .error (.server ("cannot load " ++ name))⟩, server.note (.refusedLoad name))
  else
    let server := server.note (.load name (columns.map (·.name)) rows)
    match server.table? name with
    | some _ => (⟨rows.length, .ok rows.length⟩, server.mapRows name (· ++ rows))
    | none => (⟨rows.length, .error (noTable name)⟩, server)

def unload (server : MemoryServer) (name : Text) : Unloaded :=
  match server.table? name with
  | some t => ⟨t.rows, .ok t.rows.length⟩
  | none => ⟨[], .error (noTable name)⟩

/-- The host that the server and a console in memory make. -/
def host : Host MemoryServer where
  answer
    | .connect database, server =>
      let server := server.note (.connect database)
      if database ∈ server.refusedDatabases then (.error (.connect "mock" "refused"), server)
      else (.ok (), { server with database })
    | .batch sql, server => server.batch sql
    | .returnCode call, server => (server.code call, server.note (.call server.database call))
    | .columns table, server =>
      (.ok ((server.table? table).map (·.columns)|>.getD []), server.note (.columns table))
    | .load table columns stream, server => server.load table columns stream.rows
    | .unload table, server => (server.unload table, server.note (.unload table))
    | .disconnect, server =>
      (if server.closeFails then .error (.protocol "close failed") else .ok (),
        server.note .disconnect)
    | .poll, server => (server.cancelled, server)
    | .print text, server =>
      if server.printFails then (.error (.other "disk full"), server)
      else (.ok (), { server with printed := text :: server.printed })
    | .warn text, server => ((), { server with warnings := text :: server.warnings })

end MemoryServer

end Rehearsal

end SqlBuild
