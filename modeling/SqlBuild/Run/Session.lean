import SqlBuild.Run.Basic

/-!
# Talking to the server and to the user

`withSession` opens a session for a piece of work and closes it when the work ends, however it
ends. `emit` and `reportError` write to the output; an output that cannot be written to costs a
warning and nothing else.
-/

namespace SqlBuild

namespace Run

def warn (text : Text) : Run Unit := act (.warn text)

def batch (sql : Text) : Run BatchResult := act (.batch sql)

/-- Whether the run has been cancelled. -/
def poll : Run Bool := act .poll

/-- Writes a text as it is. -/
def write (text : Text) : Run Unit := do
  match (← act (.print text) : Except IoError Unit) with
  | .ok () => pure ()
  | .error e => warn ("Could not write to output: " ++ e.message)

/-- A text with a line feed at its end, unless it has one. -/
def withNewline (text : Text) : Text := if Text.endsWith text "\n" then text else text ++ "\n"

/-- Writes a text, and a line feed if it lacks one; an empty text is not written. -/
def emit (text : Text) : Run Unit := if text = [] then pure () else write (withNewline text)

/-- The line that tells the user of a failure. -/
def errorLine (message : Text) : Text := "Error: " ++ message ++ "\n"

def reportError (message : Text) : Run Unit := write (errorLine message)

/-- Closes the session; a failure costs a warning. -/
def disconnect : Run Unit := do
  match (← act .disconnect : Except ExecError Unit) with
  | .ok () => pure ()
  | .error e => warn ("Failed to close connection: " ++ e.message)

end Run

namespace Exec

/-- Ends the run when it has been cancelled. -/
def checkCancelled : Exec Unit := do
  if ← liftM Run.poll then throw .cancelled

/-- An action whose answer is a value or an error. -/
def ofRun {α : Type} (r : Run (Except ExecError α)) : Exec α := r

/-- Does `work` in a session of its own. -/
def withSession {α : Type} (database : Option Text) (work : Exec α) : Exec α := do
  ofRun (Run.act (.connect database))
  let result ← liftM work.run
  liftM Run.disconnect
  ofRun (pure result)

def returnCode (call : Text) : Exec Int := ofRun (Run.act (.returnCode call))

def columns (table : Text) : Exec (List ColumnInfo) := ofRun (Run.act (.columns table))

/-- A batch whose rejection ends the work. -/
def batch (sql : Text) : Exec Text := do
  match ← liftM (Run.batch sql) with
  | .ok text => pure text
  | .error e => throw (.server e.fullText)

end Exec

end SqlBuild
