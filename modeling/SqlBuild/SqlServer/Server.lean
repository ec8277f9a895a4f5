import SqlBuild.Environment.Basic
import SqlBuild.Server.Console
import SqlBuild.Server.ReturnCode
import SqlBuild.Server.TableName
import SqlBuild.SqlServer.Batch
import SqlBuild.SqlServer.Insert

/-!
# SQL Server as the server of a run

Every call becomes a query on one connection. What the connection does is given as a `Link`, so that
any stand-in for it makes a server.
-/

namespace SqlBuild

namespace SqlServer

/-- Where the server is and how to log in. -/
structure Account where
  host : Text
  port : UInt16
  user : Text
  password : Text
deriving DecidableEq, Repr

/-- The server's name in messages. -/
def Account.endpoint (account : Account) : Text :=
  account.host ++ ":" ++ Text.ofNat account.port.toNat

end SqlServer

/-- The account of an environment on SQL Server. -/
def Environment.account (env : Environment) : SqlServer.Account :=
  ⟨env.host, env.effectivePort, env.user, env.password⟩

namespace SqlServer

/-- The connection as seen from outside. -/
structure Link (σ : Type) where
  connect : Account → Option Text → σ → Except LinkError Unit × σ
  query : Text → σ → Reply × σ
  close : σ → Except LinkError Unit × σ

/-- The query for the return code of a call. -/
def returnCodeQuery (call : Text) : Text :=
  "declare @rc int\nexec @rc = " ++ ReturnCode.procedureOf call ++
    "\nselect convert(varchar(12), @rc)"

/-- The return code among the rows of its query: the first cell of the last row that has one. -/
def returnCodeIn? (rows : List Cells) : Option Int :=
  (rows.reverse.findSome? fun cells => cells.texts.head?.join).bind fun text =>
    Text.signed? 32 (Text.trim text)

/-- The query for the columns of a table. -/
def columnsQuery (table : Text) : Text :=
  let catalog : Text := match TableName.database? table with
    | some database => "[" ++ database ++ "]."
    | none => []
  "select c.name, t.name from " ++ catalog ++ "sys.columns c join " ++ catalog ++
    "sys.types t on c.user_type_id = t.user_type_id where c.object_id = object_id('" ++
    Text.doubleQuotes table ++ "') order by c.column_id"

/-- The columns among the rows of their query: rows that start with a name and a type. -/
def columnsIn (rows : List Cells) : List ColumnInfo :=
  rows.filterMap fun cells =>
    match cells.texts with
    | some name :: some typeName :: _ => some ⟨name, typeName⟩
    | _ => none

namespace Link

variable {σ : Type}

/-- The rows of a query. -/
def rows (link : Link σ) (sql : Text) (s : σ) : Except ExecError (List Cells) × σ :=
  let (reply, s) := link.query sql s
  (reply.queried, s)

def returnCode (link : Link σ) (call : Text) (s : σ) : Except ExecError Int × σ :=
  match link.rows (returnCodeQuery call) s with
  | (.error e, s) => (.error e, s)
  | (.ok rows, s) =>
    match returnCodeIn? rows with
    | some code => (.ok code, s)
    | none => (.error (.protocol (ReturnCode.noStatus call)), s)

/-- Sends statements until one fails; `moved` counts the rows sent before. -/
def sendAll (link : Link σ) : List (Text × Nat) → Nat → σ → Transfer × σ
  | [], moved, s => (⟨moved, .ok moved⟩, s)
  | (sql, count) :: rest, moved, s =>
    match link.query sql s with
    | (⟨_, none⟩, s) => sendAll link rest (moved + count) s
    | (⟨_, some e⟩, s) => (⟨moved + count, .error (.server e.report)⟩, s)

def unload (link : Link σ) (table : Text) (s : σ) : Unloaded × σ :=
  let (reply, s) := link.query ("select * from " ++ table) s
  (⟨reply.rows.map Cells.row, reply.queried.map List.length⟩, s)

/-- The server at the other end of a connection. -/
def server (link : Link σ) (account : Account) : Server σ where
  connect database s :=
    match link.connect account database s with
    | (.ok (), s) => (.ok (), s)
    | (.error e, s) => (.error (.connect account.endpoint e.message), s)
  batch sql s :=
    let (reply, s) := link.query sql s
    (reply.result, s)
  returnCode call s := link.returnCode call s
  columns table s :=
    let (rows, s) := link.rows (columnsQuery table) s
    (rows.map columnsIn, s)
  load table columns stream s :=
    link.sendAll (Insert.statements table (Insert.columnList columns) stream) 0 s
  unload table s := link.unload table s
  disconnect s :=
    match link.close s with
    | (.ok (), s) => (.ok (), s)
    | (.error e, s) => (.error (.protocol e.message), s)

end Link

/-- The host of a run on SQL Server. -/
def host {σ : Type} (console : Console σ) (link : Link σ) (account : Account) : Host σ :=
  Host.of console (link.server account)

end SqlServer

end SqlBuild
