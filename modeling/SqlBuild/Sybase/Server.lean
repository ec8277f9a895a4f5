import SqlBuild.Bulk.DataFile
import SqlBuild.Server.Console
import SqlBuild.Sybase.Call
import SqlBuild.Sybase.Conversation

/-!
# Sybase as the server of a run

A session is a conversation with one client for batches; rows are transferred by the other client
through a temporary file. What the clients do is given as `Programs`, so that any stand-in for them
makes a server.
-/

namespace SqlBuild

namespace Sybase

/-- The client programs as seen from outside. -/
structure Programs (σ : Type) where
  /-- Starts the client for batches. -/
  start : ProgramCall → σ → Except IoError Unit × σ
  /-- Sends a text to it: whether it could be written, and what the client prints. -/
  feed : Text → σ → (Except IoError Unit × Bytes) × σ
  /-- Drops the client without a word. -/
  drop : σ → σ
  /-- The name of the next temporary file. -/
  staging : σ → Text
  /-- Runs the client for transfers on a temporary file with this content: what became of it, and
  the content it leaves. -/
  transfer : ProgramCall → Bytes → σ → (Except IoError (Option ProgramResult) × Bytes) × σ

/-- The programs and the session that is open. -/
structure Desk (σ : Type) where
  programs : σ
  session : Option Session := none

/-- What a call without a session gets. -/
def noSession : Text := "isql pipes were not available"

namespace Desk

variable {σ : Type}

/-- Runs a batch in a session. -/
def exchange (programs : Programs σ) (session : Session) (sql : Text) (s : σ) :
    BatchResult × Session × σ :=
  let ((sent, printed), s) := programs.feed (session.request sql) s
  let (result, session) := session.receive sent printed
  (result, session, s)

def batch (programs : Programs σ) (sql : Text) (desk : Desk σ) : BatchResult × Desk σ :=
  match desk.session with
  | none => (.error ⟨noSession, []⟩, desk)
  | some session =>
    let (result, session, s) := exchange programs session sql desk.programs
    (result, ⟨s, some session⟩)

/-- Opens a session. A login that fails shows when the first batch has no answer. -/
def connect (programs : Programs σ) (login : Login) (database : Option Text) (desk : Desk σ) :
    Except ExecError Unit × Desk σ :=
  let call := sessionCall login database
  match programs.start call desk.programs with
  | (.error cause, s) => (.error (.commandFailed call.shown cause), ⟨s, none⟩)
  | (.ok (), s) =>
    match exchange programs { database } "set nocount off" s with
    | (.ok _, session, s) => (.ok (), ⟨s, some session⟩)
    | (.error e, _, s) => (.error (.connect login.server e.fullText), ⟨programs.drop s, none⟩)

/-- Ends a session. -/
def disconnect (programs : Programs σ) (desk : Desk σ) : Except ExecError Unit × Desk σ :=
  match programs.feed "quit\n" desk.programs with
  | ((.ok (), _), s) => (.ok (), ⟨s, none⟩)
  | ((.error cause, _), s) => (.error (.io cause), ⟨programs.drop s, none⟩)

/-- A batch whose output is searched for something. -/
def query {α : Type} (programs : Programs σ) (sql : Text) (find : Text → Except ExecError α)
    (desk : Desk σ) : Except ExecError α × Desk σ :=
  match desk.batch programs sql with
  | (.ok output, desk) => (find output, desk)
  | (.error e, desk) => (.error (.server e.fullText), desk)

def returnCode (programs : Programs σ) (call : Text) (desk : Desk σ) :
    Except ExecError Int × Desk σ :=
  desk.query programs (returnCodeBatch call) fun output =>
    match returnCodeIn? output with
    | some code => .ok code
    | none => .error (.protocol (ReturnCode.noStatus call))

def columns (programs : Programs σ) (table : Text) (desk : Desk σ) :
    Except ExecError (List ColumnInfo) × Desk σ :=
  desk.query programs (columnsBatch table) fun output => .ok (columnsIn output)

/-- Transfers rows between a table and the content of a file. A run that is cancelled starts no
client. -/
def transfer (console : Console σ) (programs : Programs σ) (login : Login) (table direction : Text)
    (content : Bytes) (desk : Desk σ) : Except ExecError Bytes × Desk σ :=
  let (cancelled, s) := console.poll desk.programs
  if cancelled then (.error .cancelled, { desk with programs := s })
  else
    let table := TableName.qualify (desk.session.bind (·.database)) table
    let call := transferCall login table direction (programs.staging s)
    let ((outcome, left), s) := programs.transfer call content s
    ((call.capture false outcome).map fun _ => left, { desk with programs := s })

def load (console : Console σ) (programs : Programs σ) (login : Login) (table : Text)
    (rows : List Row) (desk : Desk σ) : Transfer × Desk σ :=
  let content := Utf8.encode (Text.unlines (rows.map Row.toLine))
  let (result, desk) := desk.transfer console programs login table "in" content
  (⟨rows.length, result.map fun _ => rows.length⟩, desk)

/-- The rows in a file of rows; they are as many as its lines up to one that is no text. -/
def unloaded (content : Bytes) : Unloaded :=
  let file := DataFile.ofBytes content
  let rows := file.lines.map Row.ofLine
  ⟨rows, match file.failure with
    | none => .ok rows.length
    | some cause => .error (.io cause)⟩

def unload (console : Console σ) (programs : Programs σ) (login : Login) (table : Text)
    (desk : Desk σ) : Unloaded × Desk σ :=
  match desk.transfer console programs login table "out" [] with
  | (.ok content, desk) => (unloaded content, desk)
  | (.error e, desk) => (⟨[], .error e⟩, desk)

end Desk

/-- The programs' side of a console. -/
def onDesk {σ : Type} (console : Console σ) : Console (Desk σ) where
  poll desk :=
    let (cancelled, s) := console.poll desk.programs
    (cancelled, { desk with programs := s })
  print text desk :=
    let (result, s) := console.print text desk.programs
    (result, { desk with programs := s })
  warn text desk := { desk with programs := console.warn text desk.programs }

/-- The server that the client programs make. -/
def server {σ : Type} (console : Console σ) (programs : Programs σ) (login : Login) :
    Server (Desk σ) where
  connect database desk := desk.connect programs login database
  batch sql desk := desk.batch programs sql
  returnCode call desk := desk.returnCode programs call
  columns table desk := desk.columns programs table
  load table _ stream desk := desk.load console programs login table stream.rows
  unload table desk := desk.unload console programs login table
  disconnect desk := desk.disconnect programs

/-- The host of a run on a Sybase server. -/
def host {σ : Type} (console : Console σ) (programs : Programs σ) (login : Login) :
    Host (Desk σ) :=
  Host.of (onDesk console) (server console programs login)

end Sybase

end SqlBuild
