import SqlBuild.Files.Scratch

/-!
# What can go wrong with a server

`ExecError` is why a connection, a call or a transfer failed, `BatchError` why the server rejected a
batch. A cancelled run is an error of its own kind, and so is a batch that has no scratch file:
everything else can be counted as a failed unit.
-/

namespace SqlBuild

inductive ExecError
  | connect (server reason : Text)
  | commandFailed (command : Text) (cause : IoError)
  | nonZeroExit (command output : Text)
  | server (reason : Text)
  | protocol (reason : Text)
  | io (cause : IoError)
  /-- A batch of an upgrade has no file to be run from. -/
  | scratch (error : ScratchError)
  | cancelled
deriving DecidableEq, Repr

def ExecError.message : ExecError → Text
  | connect host reason => "Could not connect to '" ++ host ++ "': " ++ reason
  | commandFailed command cause =>
    "Command '" ++ command ++ "' could not be executed: " ++ cause.message
  | nonZeroExit command output =>
    "Command '" ++ command ++ "' exited with a non-zero error code.\n" ++ output
  | server reason => "Server error: " ++ reason
  | protocol reason => "Unexpected response from server: " ++ reason
  | io cause => "I/O error: " ++ cause.message
  | scratch error => error.message
  | cancelled => "Operation was cancelled by the user."

/-- A batch the server rejected, with what it printed before. -/
structure BatchError where
  message : Text
  output : Text := []
deriving DecidableEq, Repr

/-- What was printed, unless it is blank, and then the message. -/
def BatchError.fullText (e : BatchError) : Text :=
  if Text.isAllBlank e.output then e.message else Text.trimEnd e.output ++ "\n" ++ e.message

/-- The text a batch printed, or why it was rejected. -/
abbrev BatchResult := Except BatchError Text

namespace BatchResult

def isOk (r : BatchResult) : Bool := r.toBool

/-- All there is to show of a batch. -/
def shown : BatchResult → Text
  | .ok text => text
  | .error e => e.fullText

end BatchResult

end SqlBuild
