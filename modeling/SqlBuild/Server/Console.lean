import SqlBuild.Run.Basic

/-!
# The user's side of a run

What a run has to do with the user: whether it has been cancelled, what it prints, and what it warns
of. A server completes this to a host for whole runs.
-/

namespace SqlBuild

structure Console (σ : Type) where
  poll : σ → Bool × σ
  print : Text → σ → Except IoError Unit × σ
  warn : Text → σ → σ

/-- The server's side of a run: one session that is opened, used and closed. -/
structure Server (σ : Type) where
  connect : Option Text → σ → Except ExecError Unit × σ
  batch : Text → σ → BatchResult × σ
  returnCode : Text → σ → Except ExecError Int × σ
  columns : Text → σ → Except ExecError (List ColumnInfo) × σ
  load : Text → List ColumnInfo → RowStream → σ → Transfer × σ
  unload : Text → σ → Unloaded × σ
  disconnect : σ → Except ExecError Unit × σ

/-- The host made of a user and a server. -/
def Host.of {σ : Type} (console : Console σ) (server : Server σ) : Host σ where
  answer
    | .connect database, s => server.connect database s
    | .batch sql, s => server.batch sql s
    | .returnCode call, s => server.returnCode call s
    | .columns table, s => server.columns table s
    | .load table columns stream, s => server.load table columns stream s
    | .unload table, s => server.unload table s
    | .disconnect, s => server.disconnect s
    | .poll, s => console.poll s
    | .print text, s => console.print text s
    | .warn text, s => ((), console.warn text s)

end SqlBuild
