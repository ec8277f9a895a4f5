import SqlBuild.Environment.Platform
import SqlBuild.Files.Tree

/-!
# Environments

Everything a run needs to know about its target: the server and how to log in, the company and
language, and where the SQL sources are.
-/

namespace SqlBuild

structure Environment where
  /-- The profile's name, or the server's name when there is no profile. -/
  name : Text
  host : Text
  port : Option UInt16
  user : Text
  password : Text
  platform : Platform
  company : Text
  language : Text
  /-- The directory that build scripts call `$ir`. -/
  root : Text
  /-- SQL is sent as it stands: no placeholders, no audit, no compilers. -/
  rawMode : Bool
  /-- Whether a profile of the settings file was found. -/
  named : Bool
deriving DecidableEq, Repr

namespace Environment

/-- The directory of the option and metadata sources. -/
def setupDirectory (env : Environment) : Text := Path.join (Path.join env.root "CSS") "Setup"

def effectivePort (env : Environment) : UInt16 := env.port.getD env.platform.defaultPort

end Environment

end SqlBuild
