import SqlBuild.Run.Error
import SqlBuild.Server.Notice

/-!
# What a batch printed

The client prints results and messages mixed, a message with a header line `Msg n, Level l, State s`
before its text. A message of a level above ten means that the batch was rejected. Notices of a
changed context are left out: a header with one of their numbers together with all lines up to the
next blank line or header, and their texts when they come alone.
-/

namespace SqlBuild

namespace Sybase

/-- A run of digits at the start of a text, and the rest. -/
def digits? (t : Text) : Option (Text × Text) :=
  let run := t.takeWhile isDecimalDigit
  if run = [] then none else some (run, t.drop run.length)

/-- A number of a header; one that does not fit 32 bits counts as zero. -/
def numberOf (digits : Text) : Nat := (Text.unsigned? 32 digits).getD 0

/-- The header of a message. -/
structure Header where
  number : Nat
  level : Nat
deriving DecidableEq, Repr

namespace Header

/-- The header at the start of a line. -/
def ofLine? (line : Text) : Option Header := do
  let (number, rest) ← digits? (← Text.after? "Msg " line)
  let (level, rest) ← digits? (← Text.after? ", Level " rest)
  let _ ← digits? (← Text.after? ", State " rest)
  return ⟨numberOf number, numberOf level⟩

/-- The numbers of the notices of a changed context. -/
def noticeNumbers : List Nat := [5701, 5703, 5704]

def isNotice (header : Header) : Bool := noticeNumbers.contains header.number

/-- The highest level that is only information. -/
def informationLevel : Nat := 10

/-- Whether a message means that the batch was rejected. -/
def isFailure (header : Header) : Bool := !header.isNotice && informationLevel < header.level

end Header

/-- The lines without notices; `skipping` says whether a notice is under way. -/
def withoutNotices (skipping : Bool) : List Text → List Text
  | [] => []
  | line :: rest =>
    match Header.ofLine? line with
    | some header =>
      if header.isNotice then withoutNotices true rest else line :: withoutNotices false rest
    | none =>
      if skipping then withoutNotices (!Text.isAllBlank line) rest
      else if isContextNotice line then withoutNotices false rest
      else line :: withoutNotices false rest

/-- The first line that says that the batch was rejected. -/
def failure? (lines : List Text) : Option Text :=
  lines.find? fun line => (Header.ofLine? line).any Header.isFailure

/-- The result of a batch that printed these lines. -/
def interpret (lines : List Text) : BatchResult :=
  let text := Text.join "\n" (withoutNotices false lines)
  match failure? lines with
  | none => .ok text
  | some header => .error ⟨"Batch failed (" ++ header ++ ")", text⟩

end Sybase

end SqlBuild
