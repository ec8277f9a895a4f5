import SqlBuild.Sybase.Message
import SqlBuild.Text.Utf8

/-!
# A conversation with the client

The client reads batches from its standard input and prints what they give. Behind every batch a
second one is sent that prints a marker, a new one each time: what comes up to the line of the
marker belongs to the batch. What comes after it is left for the next reading.
-/

namespace SqlBuild

namespace Sybase

/-- The marker of batch number `n`. -/
def marker (n : Nat) : Text := "__IBS_BATCH_END_" ++ Text.ofNat n ++ "__"

/-- A batch as it is sent, with the batch that prints its marker. -/
def frame (n : Nat) (sql : Text) : Text :=
  Text.trimEnd sql ++ "\ngo\nprint '" ++ marker n ++ "'\ngo\n"

/-- What follows one prompt: a line number, a `>` and perhaps a blank. -/
def afterPrompt? (t : Text) : Option Text :=
  match t.takeWhile isDecimalDigit, t.dropWhile isDecimalDigit with
  | [], _ => none
  | _, '>' :: ' ' :: rest => some rest
  | _, '>' :: rest => some rest
  | _, _ => none

theorem length_lt_of_afterPrompt? {t rest : Text} (h : afterPrompt? t = some rest) :
    rest.length < t.length := by
  have hle : (t.dropWhile isDecimalDigit).length ≤ t.length :=
    (List.dropWhile_sublist _).length_le
  unfold afterPrompt? at h
  split at h <;> simp_all
  all_goals omega

/-- A line without the prompts at its start. -/
def dropPrompts (t : Text) : Text :=
  match _h : afterPrompt? t with
  | none => t
  | some rest => dropPrompts rest
termination_by t.length
decreasing_by exact length_lt_of_afterPrompt? _h

/-- The text of a line of bytes, without its line end and prompts; none for bytes that are no
text. -/
def lineOf? (bytes : Bytes) : Option Text :=
  (Utf8.decode? bytes).map fun line =>
    dropPrompts (Text.dropEndWhile (fun c => c == '\r' || c == '\n') line)

/-- What came in answer to a batch. -/
inductive Answer
  /-- All lines up to the marker. -/
  | complete (lines : List Text)
  /-- The client ended; the lines up to there. -/
  | ended (lines : List Text)
  /-- A line that is no text. -/
  | unreadable
deriving DecidableEq, Repr

/-- Reads up to a marker. `line` holds the bytes of the line under way, last one first, and `before`
the lines before it, last one first. A line that is no text is used up, and nothing behind it. -/
def readFrom (marker : Text) (before : List Text) (line : Bytes) : Bytes → Answer × Bytes
  | [] =>
    if line = [] then (.ended before.reverse, [])
    else
      match lineOf? line.reverse with
      | none => (.unreadable, [])
      | some text =>
        if Text.trim text = marker then (.complete before.reverse, [])
        else (.ended (text :: before).reverse, [])
  | b :: rest =>
    if b = 10 then
      match lineOf? line.reverse with
      | none => (.unreadable, rest)
      | some text =>
        if Text.trim text = marker then (.complete before.reverse, rest)
        else readFrom marker (text :: before) [] rest
    else readFrom marker before (b :: line) rest

/-- What came up to a marker, and the bytes behind it. -/
def read (marker : Text) (bytes : Bytes) : Answer × Bytes := readFrom marker [] [] bytes

/-- Why there is no answer. -/
def Answer.failure? : Answer → Option Text
  | complete _ => none
  | ended lines => some ("isql ended unexpectedly.\n" ++ Text.join "\n" lines)
  | unreadable => some ("Failed to read from isql: " ++ IoError.notUtf8.message)

/-- What is added when the batch could not be sent either. -/
def unsent (cause : IoError) : Text := "\nFailed to send batch to isql: " ++ cause.message

/-- The result of a batch; an answer that is complete counts whatever became of the sending. -/
def Answer.result (answer : Answer) (sent : Except IoError Unit) : BatchResult :=
  match answer with
  | complete lines => interpret lines
  | ended _ | unreadable =>
    match sent with
    | .ok () => .error ⟨answer.failure?.getD [], []⟩
    | .error cause => .error ⟨answer.failure?.getD [] ++ unsent cause, []⟩

/-- The state of a conversation: how many batches were sent, what the client has printed and nobody
has read, and the database the session was opened in. -/
structure Session where
  sent : Nat := 0
  unread : Bytes := []
  database : Option Text := none
deriving DecidableEq, Repr

namespace Session

/-- What is sent for the next batch. -/
def request (session : Session) (sql : Text) : Text := frame (session.sent + 1) sql

/-- The result of the batch just sent, when the client has printed `printed`. -/
def receive (session : Session) (sent : Except IoError Unit) (printed : Bytes) :
    BatchResult × Session :=
  let (answer, unread) := read (marker (session.sent + 1)) (session.unread ++ printed)
  (answer.result sent, { session with sent := session.sent + 1, unread })

end Session

end Sybase

end SqlBuild
