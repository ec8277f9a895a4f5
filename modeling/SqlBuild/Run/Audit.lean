import SqlBuild.Run.Batch
import SqlBuild.Run.Context

/-!
# The audit entry

A top-level command records itself by a call of the audit procedure: the program, the command line
without its password, and the user. Texts inside the call are literals with their quotes doubled.
-/

namespace SqlBuild

namespace Audit

/-- The word recorded for a program. -/
def label (program : Text) : Text :=
  if Text.sameIgnoringCase program "i_run_upgrade" then "UPGRADE" else Text.upper program

/-- What stands for a password. -/
def stars : Text := "****"

/-- The words of a command line with the value of every `-P` replaced. -/
def maskWords : List Text → List Text
  | [] => []
  | word :: rest =>
    if word = "-P" then
      match rest with
      | [] => [word]
      | _ :: rest' => word :: stars :: maskWords rest'
    else if Text.startsWith word "-P" then ("-P" ++ stars) :: maskWords rest
    else word :: maskWords rest

/-- A command line without its password. -/
def mask (commandLine : Text) : Text := Text.join " " (maskWords (Text.words commandLine))

/-- A text as a literal of SQL. -/
def literal (t : Text) : Text := "'" ++ Text.doubleQuotes t ++ "'"

/-- The call that records a command, its placeholders not yet resolved. -/
def statement (program commandLine user : Text) : Text :=
  "exec &i_changelog& @program = " ++ literal (label program) ++ ", @command = " ++
    literal (mask commandLine) ++ ", @user_name = " ++ literal user

/-- A command line as it was typed; an argument with white space in it is quoted. -/
def commandLine (program : Text) (args : List Text) : Text :=
  Text.join " " (program :: args.map fun arg =>
    if arg.any isBlank then "\"" ++ arg ++ "\"" else arg)

/-- Records a command in a session of its own. A failure is reported and changes nothing else. -/
def write (ctx : Context) (program : Text) (vars : RunVariables) : Exec Unit := do
  let sql := ctx.resolveWord (statement program vars.commandLine ctx.env.user) ++ "\ngo\n"
  match ← liftM (Batch.runOnce sql vars.database).run with
  | .ok report =>
    if report.success then pure ()
    else do
      liftM (Run.warn "Changelog entry was not written.")
      liftM (Run.reportError ("Changelog entry failed: " ++ Text.trim report.output))
  | .error e => let _ ← Exec.foldError e

end Audit

end SqlBuild
