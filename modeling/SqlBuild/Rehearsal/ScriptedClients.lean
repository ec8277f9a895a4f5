import SqlBuild.Sybase.Server

/-!
# Clients that follow a script

Stand-ins for the two client programs. The one for batches reads its input line by line, shows the
mark that ends a batch, and answers every other batch with the next reply of its script; the one for
transfers leaves what its script says in the data file. Both keep what they were given.
-/

namespace SqlBuild

namespace Rehearsal

/-- What a client does with a batch. -/
inductive ClientReply
  | prints (output : Bytes)
  /-- Prints after the run has been interrupted. -/
  | interrupts (output : Bytes)
  /-- Ends without a word. -/
  | exits
deriving DecidableEq, Repr

/-- A client for batches: how it was started, the rest of its script, the lines it has read and
those of the batch that is not complete, both latest first. -/
structure BatchClient where
  args : List Text
  script : List ClientReply
  input : List Text := []
  pending : List Text := []
  isRunning : Bool := true

namespace BatchClient

/-- The start of the batch that asks for the end mark. -/
def markBatch : Text := "print '__IBS_BATCH_END_"

/-- Answers a batch: the client after it, what it prints, and whether it interrupts the run. -/
def reply (client : BatchClient) (batch : Text) : BatchClient × Bytes × Bool :=
  let client := { client with pending := [] }
  if Text.startsWith batch markBatch then
    (client, Utf8.encode ((batch.drop "print '".length).dropLast ++ "\n"), false)
  else
    match client.script with
    | [] => (client, [], false)
    | .exits :: script => ({ client with script, isRunning := false }, [], false)
    | .prints output :: script => ({ client with script }, output, false)
    | .interrupts output :: script => ({ client with script }, output, true)

/-- Reads a line. -/
def read (client : BatchClient) (line : Text) : BatchClient × Bytes × Bool :=
  let client := { client with input := line :: client.input }
  if line = "quit" then ({ client with isRunning := false }, [], false)
  else if line = "go" then client.reply (Text.join "\n" client.pending.reverse)
  else ({ client with pending := line :: client.pending }, [], false)

/-- Reads lines until the client ends. -/
def readAll (client : BatchClient) : List Text → BatchClient × Bytes × Bool
  | [] => (client, [], false)
  | line :: rest =>
    if client.isRunning then
      let (client, output, interrupts) := client.read line
      let (client, more, interrupts') := client.readAll rest
      (client, output ++ more, interrupts || interrupts')
    else (client, [], false)

end BatchClient

/-- What a client for transfers does. -/
structure TransferScript where
  result : ProgramResult
  /-- What it leaves in the data file of an unload. -/
  data : Bytes
deriving DecidableEq, Repr

/-- A client for transfers that has ended: its arguments, and the data it was given to load. -/
structure TransferClient where
  args : List Text
  data : Option Bytes
deriving DecidableEq, Repr

/-- The scripts of the clients to come, the clients there have been, latest first, and the user's
side. -/
structure Clients where
  batchScripts : List (List ClientReply) := []
  transferScripts : List TransferScript := []
  batchClients : List BatchClient := []
  transferClients : List TransferClient := []
  cancelled : Bool := false
  /-- What was printed, latest first. -/
  printed : List Text := []

namespace Clients

/-- The name of every temporary file. -/
def stagingName : Text := "<TMP>"

def start (call : ProgramCall) (clients : Clients) : Except IoError Unit × Clients :=
  let client : BatchClient := { args := call.args, script := clients.batchScripts.head?.getD [] }
  (.ok (), { clients with
    batchScripts := clients.batchScripts.tail, batchClients := client :: clients.batchClients })

def feed (text : Text) (clients : Clients) : (Except IoError Unit × Bytes) × Clients :=
  match clients.batchClients with
  | [] => ((.error .brokenPipe, []), clients)
  | client :: older =>
    if client.isRunning then
      let (client, output, interrupts) := client.readAll (text.splitOn '\n').dropLast
      ((.ok (), output), { clients with
        batchClients := client :: older, cancelled := clients.cancelled || interrupts })
    else ((.error .brokenPipe, []), clients)

def transfer (call : ProgramCall) (content : Bytes) (clients : Clients) :
    (Except IoError (Option ProgramResult) × Bytes) × Clients :=
  let script := clients.transferScripts.head?.getD ⟨⟨true, [], []⟩, []⟩
  let unloads := call.args[1]? = some "out".toList
  let client : TransferClient := ⟨call.args, if unloads then none else some content⟩
  ((.ok (some script.result), if unloads then script.data else content), { clients with
    transferScripts := clients.transferScripts.tail
    transferClients := client :: clients.transferClients })

def programs : Sybase.Programs Clients where
  start := start
  feed := feed
  drop clients := clients
  staging _ := stagingName
  transfer := transfer

def console : Console Clients where
  poll clients := (clients.cancelled, clients)
  print text clients := (.ok (), { clients with printed := text :: clients.printed })
  warn _ clients := clients

/-- What has been printed since this was last asked for. -/
def collect (clients : Clients) : Text × Clients :=
  (clients.printed.reverse.flatten, { clients with printed := [] })

end Clients

end Rehearsal

end SqlBuild
