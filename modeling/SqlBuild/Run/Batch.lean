import SqlBuild.Run.Session

/-!
# Batches

Scripts are cut into batches at lines that are just `go`; a batch that is blank is dropped. The
batches of a script run one after the other in one session: a rejected batch does not stop those
after it, a batch that is just `exit` or `quit` does, and is not sent.
-/

namespace SqlBuild

namespace Batch

/-- A line that ends a batch. -/
def isTerminator (line : Text) : Bool := Text.sameIgnoringCase (Text.trim line) "go"

/-- A command to leave. -/
def isExit (text : Text) : Bool :=
  Text.sameIgnoringCase (Text.trim text) "exit" || Text.sameIgnoringCase (Text.trim text) "quit"

/-- The groups of lines between terminators, in order, blank ones too. -/
def groups (lines : List Text) : List (List Text) := lines.splitOnP isTerminator

/-- The batches of a script; every line of a batch ends with a line feed. -/
def split (sql : Text) : List Text :=
  ((groups (Text.lines sql)).map Text.unlines).filter (!Text.isAllBlank ·)

/-- Runs batches from number `index` on; `observe` sees each result as it comes. -/
def runFrom (observe : Nat → Text → BatchResult → Run Unit) (index : Nat) :
    List Text → Exec (List BatchResult)
  | [] => pure []
  | batch :: rest =>
    if isExit batch then pure []
    else do
      Exec.checkCancelled
      let result ← liftM (Run.batch batch)
      liftM (observe index batch result)
      return result :: (← runFrom observe (index + 1) rest)

/-- What the results of a script's batches show, blank ones left out. -/
def transcript (results : List BatchResult) : Text :=
  (((results.map BatchResult.shown).filter (!Text.isAllBlank ·)).map Text.trimEnd).flatMap
    (· ++ ['\n'])

/-- Whether no batch was rejected, and all there is to show. -/
structure Report where
  success : Bool
  output : Text
deriving DecidableEq, Repr

/-- Runs the batches of a script in a session of their own. -/
def runOnce (sql : Text) (database : Option Text) : Exec Report :=
  Exec.withSession database do
    let results ← runFrom (fun _ _ _ => pure ()) 0 (split sql)
    return ⟨results.all BatchResult.isOk, transcript results⟩

end Batch

end SqlBuild
