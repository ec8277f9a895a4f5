import SqlBuild.CommandLine.Grammar
import SqlBuild.CommandLine.Registry
import SqlBuild.Options.Source
import SqlBuild.Run.Error
import SqlBuild.Run.Outcome
import SqlBuild.Settings.Target

/-!
# Why a command failed

The reason is shown on one line with everything that led to it, each cause behind the one before.
-/

namespace SqlBuild

inductive CommandError
  | usage (error : UsageError)
  | unknownCommand (word : Text)
  /-- An argument that cannot be followed, with the complaint about it. -/
  | argument (complaint : Text)
  | target (error : TargetError)
  /-- The threshold for artifacts is too large to be counted in seconds. -/
  | overflow
  | options (name : Text) (error : OptionsError)
  | output (path : Text) (cause : IoError)
  | unwritable (cause : IoError)
  /-- The server, or the way to it. -/
  | server (error : ExecError)
  | copy (table : Text) (error : ExecError)
  | failedUnits (outcome : Outcome)
deriving DecidableEq, Repr

/-- What is wrong with a command line. -/
def UsageError.message : UsageError → Text
  | unknownArgument => "error: unexpected argument found"
  | missingRequiredArgument => "error: the required arguments were not provided"
  | invalidValue => "error: a value is required but none was supplied"
  | valueValidation => "error: invalid value"
  | argumentConflict => "error: the argument cannot be used multiple times"
  | tooManyValues => "error: unexpected value found"
  | displayHelp => "Run a command with its arguments."
  | displayVersion => "No version of its own."

/-- An error and the causes behind it. -/
def ExecError.chain : ExecError → Text
  | io cause => (ExecError.io cause).message ++ ": " ++ cause.message
  | e => e.message

def TargetError.chain : TargetError → Text
  | unreadable path cause => (unreadable path cause).message ++ ": " ++ cause.message
  | e => e.message

def OptionsError.chain : OptionsError → Text
  | unreadable path cause => (unreadable path cause).message ++ ": " ++ cause.message
  | e => e.message

namespace CommandError

def message : CommandError → Text
  | usage error => error.message
  | unknownCommand word => Command.unknown word
  | argument complaint => complaint
  | target error => error.chain
  | overflow => "attempt to multiply with overflow"
  | options name error => "Failed to build the option set for '" ++ name ++ "': " ++ error.chain
  | output path cause => "Failed to open output file '" ++ path ++ "': " ++ cause.message
  | unwritable cause => "Failed to write output: " ++ cause.message
  | server error => error.chain
  | copy table error => "Bulk copy of " ++ table ++ " failed: " ++ error.chain
  | failedUnits outcome =>
    Text.ofNat outcome.failed ++ " of " ++ Text.ofNat outcome.executed ++ " unit(s) failed."

/-- Whether the command was interrupted rather than failed. -/
def isInterruption : CommandError → Bool
  | server .cancelled | copy _ .cancelled => true
  | _ => false

end CommandError

end SqlBuild
