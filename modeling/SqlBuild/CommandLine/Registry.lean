import SqlBuild.Text.Basic

/-!
# The commands

Every command has a name and may have others; all of them are found in any case.
-/

namespace SqlBuild

inductive Command
  | runSql
  | isqlLine
  | runCreate
  | runUpgrade
  | bulkCopy
deriving DecidableEq, Repr

namespace Command

def all : List Command := [runSql, isqlLine, runCreate, runUpgrade, bulkCopy]

def name : Command → Text
  | runSql => "runsql"
  | isqlLine => "isqlline"
  | runCreate => "runcreate"
  | runUpgrade => "i_run_upgrade"
  | bulkCopy => "bcp"

/-- The other names of a command. -/
def aliases : Command → List Text
  | runSql => []
  | isqlLine => ["isql"]
  | runCreate => ["create"]
  | runUpgrade => ["upgrade"]
  | bulkCopy => ["bulk"]

/-- The command with this name, in any case. -/
def ofName? (word : Text) : Option Command :=
  all.find? fun command => (command.name :: command.aliases).any (Text.sameIgnoringCase · word)

/-- The complaint about a word that names no command. -/
def unknown (word : Text) : Text :=
  "Unknown command '" ++ word ++ "'. Known commands: " ++ Text.join ", " (all.map name)

end Command

end SqlBuild
