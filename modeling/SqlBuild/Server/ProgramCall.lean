import SqlBuild.Run.Audit

/-!
# Calls of client programs

The vendor's clients are started with a list of arguments. Messages show the call on one line, a
password behind `-P` hidden.
-/

namespace SqlBuild

structure ProgramCall where
  program : Text
  args : List Text
deriving DecidableEq, Repr

namespace ProgramCall

/-- Arguments without the value of each `-P`. -/
def hidePasswords : List Text → List Text
  | [] => []
  | [arg] => [arg]
  | arg :: value :: rest =>
    if arg = "-P" then arg :: Audit.stars :: hidePasswords rest
    else arg :: hidePasswords (value :: rest)

/-- The call as messages show it. -/
def shown (call : ProgramCall) : Text := Text.join " " (call.program :: hidePasswords call.args)

end ProgramCall

/-- What became of a program that ended. -/
structure ProgramResult where
  /-- Whether it reported success. -/
  ok : Bool
  output : Bytes
  errors : Bytes
deriving DecidableEq, Repr

namespace ProgramCall

/-- What a program printed, if it could be started and reported success. A run that is cancelled
already starts none, and one cancelled meanwhile has no result. -/
def capture (call : ProgramCall) (cancelled : Bool)
    (outcome : Except IoError (Option ProgramResult)) : Except ExecError Text :=
  if cancelled then .error .cancelled
  else
    match outcome with
    | .error cause => .error (.commandFailed call.shown cause)
    | .ok none => .error .cancelled
    | .ok (some result) =>
      let output := Utf8.decodeLossy result.output
      if result.ok then .ok output
      else .error (.nonZeroExit call.shown (output ++ Utf8.decodeLossy result.errors))

end ProgramCall

end SqlBuild
