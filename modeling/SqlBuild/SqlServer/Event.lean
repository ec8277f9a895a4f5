import SqlBuild.Server.Notice

/-!
# Events of a connection

The connection reports what it meets as events that carry a text: what the server prints, and its
own remarks on changes of the session. Only what the server prints is shown, and the two are told
apart by how the text starts.
-/

namespace SqlBuild

namespace SqlServer

structure Event where
  /-- Whether it is for information, neither more urgent nor less. -/
  informational : Bool
  /-- Whether it was met while answers were read. -/
  inAnswer : Bool
  message : Option Text
deriving DecidableEq, Repr

/-- How remarks on changes of the session start. -/
def sessionRemarks : List Text :=
  ["Database change from ", "Packet size change from ", "SQL collation change",
    "Begin transaction", "Commit transaction", "Rollback transaction", "Defect transaction",
    "Server requested routing to ", "Fallback mirror server: ", "Ignored env change: "]

/-- Whether a text is a remark on a change of the session or a notice of one. -/
def isRemark (text : Text) : Bool :=
  sessionRemarks.any (Text.startsWith text ·) || isContextNotice text

/-- The text of an event that is shown. -/
def Event.shown? (event : Event) : Option Text :=
  if event.informational ∧ event.inAnswer then event.message.filter (!isRemark ·) else none

/-- The event of a text that the server prints. -/
def Event.printed (text : Text) : Event := ⟨true, true, some text⟩

end SqlServer

end SqlBuild
