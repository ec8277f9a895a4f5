import SqlBuild.Text.Digit

/-!
# Why the system refused

The causes for which reading, writing or starting something fails, with the texts the system gives
them.
-/

namespace SqlBuild

inductive IoError
  | notFound
  | failing
  | permission
  | alreadyExists
  | notDirectory
  | isDirectory
  | brokenPipe
  | unreachable
  | notUtf8
  | other (message : Text)
deriving DecidableEq, Repr

/-- A text with the number the system gives the cause. -/
def IoError.numbered (text : Text) (number : Nat) : Text :=
  text ++ " (os error " ++ Text.ofNat number ++ ")"

def IoError.message : IoError → Text
  | notFound => numbered "No such file or directory" 2
  | failing => numbered "Input/output error" 5
  | permission => numbered "Permission denied" 13
  | alreadyExists => numbered "File exists" 17
  | notDirectory => numbered "Not a directory" 20
  | isDirectory => numbered "Is a directory" 21
  | brokenPipe => numbered "Broken pipe" 32
  | unreachable => numbered "Network is unreachable" 101
  | notUtf8 => "stream did not contain valid UTF-8"
  | other message => message

end SqlBuild
