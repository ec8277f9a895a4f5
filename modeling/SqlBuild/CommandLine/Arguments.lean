import SqlBuild.BuildScript.Sequence
import SqlBuild.CommandLine.Grammar
import SqlBuild.CommandLine.Legacy
import SqlBuild.Environment.Platform
import SqlBuild.Run.Context

/-!
# Arguments of the commands

What each command takes from its command line. The flags for the connection and the output are the
same for all.
-/

namespace SqlBuild

/-- The flags every command shares. -/
structure ConnectionArguments where
  user : Option Text
  password : Option Text
  /-- The name of a platform, as given. -/
  platform : Option Text
  output : Option Text
  /-- Build the option set anew, whatever is stored. -/
  rebuild : Bool
deriving DecidableEq, Repr

namespace ConnectionArguments

def flags : List Flag :=
  [⟨some 'U', "user", .text⟩, ⟨some 'P', "password", .text⟩, ⟨none, "platform", .text⟩,
    ⟨some 'O', "output", .text⟩, ⟨none, "rebuild-options", .nothing⟩, ⟨some 'h', "help", .help⟩]

def ofReading (r : Grammar.Reading) : ConnectionArguments :=
  { user := r.value? "user"
    password := r.value? "password"
    platform := r.value? "platform"
    output := r.value? "output"
    rebuild := r.has "rebuild-options" }

/-- The platform given, or the complaint about it. -/
def platform? (a : ConnectionArguments) : Except Text (Option Platform) :=
  match a.platform with
  | none => .ok none
  | some name =>
    match Platform.ofName? name with
    | .ok platform => .ok (some platform)
    | .error asked => .error (Platform.unknown asked)

end ConnectionArguments

/-- The flag for the database. -/
def databaseFlag : Flag := ⟨some 'D', "database", .text⟩

/-- The flag for echoing the input. -/
def echoFlag : Flag := ⟨some 'e', "echo", .nothing⟩

/-- The flag for a preview. -/
def previewFlag : Flag := ⟨none, "preview", .nothing⟩

/-- The commands that run a file. -/
structure ScriptArguments where
  source : Text
  database : Option Text
  profile : Option Text
  echo : Bool
  first : Option Int
  last : Option Int
  changelog : Option Text
  preview : Bool
  connection : ConnectionArguments
deriving DecidableEq, Repr

namespace ScriptArguments

def grammar : Grammar where
  flags := [databaseFlag, echoFlag, ⟨some 'F', "first", .number⟩, ⟨some 'L', "last", .number⟩,
    ⟨none, "changelog", .optionalText "y"⟩, previewFlag] ++ ConnectionArguments.flags
  positionals := 3
  required := 1

/-- The database flag wins over the positional argument. -/
def ofReading (r : Grammar.Reading) : ScriptArguments :=
  { source := (r.positional? 0).getD []
    database := r.value? "database" <|> r.positional? 1
    profile := r.positional? 2
    echo := r.has "echo"
    first := r.number? "first"
    last := r.number? "last"
    changelog := r.value? "changelog"
    preview := r.has "preview"
    connection := .ofReading r }

def read (words : List Text) : Except UsageError ScriptArguments :=
  (grammar.read (Legacy.normalize words)).map ofReading

/-- The sequence range the arguments ask for. -/
def sequence (a : ScriptArguments) : Option SequenceRange := SequenceRange.ofBounds? a.first a.last

/-- Whether the audit entry is written; it is unless refused. What says neither is given back. -/
def wantsChangelog (value : Option Text) : Except Text Bool :=
  match value.map fun v => Text.lower (Text.trim v) with
  | none => .ok true
  | some v =>
    if v = "y" ∨ v = "yes" then .ok true
    else if v = "n" ∨ v = "no" then .ok false
    else .error v

/-- The complaint about a value that says neither yes nor no. -/
def neither (value : Text) : Text :=
  "Invalid --changelog value '" ++ value ++ "'. Expected y or n."

/-- What the command is to do, or the complaint about its arguments. -/
def runVariables (a : ScriptArguments) (commandLine : Text) : Except Text RunVariables :=
  match wantsChangelog a.changelog with
  | .error v => .error (neither v)
  | .ok changelog => .ok
    { source := a.source
      database := a.database
      sequence := a.sequence
      echo := a.echo
      outputFile := a.connection.output
      changelog
      preview := a.preview
      commandLine }

end ScriptArguments

/-- The command that runs SQL given on the command line. -/
structure InlineArguments where
  command : Text
  database : Option Text
  profile : Option Text
  echo : Bool
  preview : Bool
  connection : ConnectionArguments
deriving DecidableEq, Repr

namespace InlineArguments

def grammar : Grammar where
  flags := [databaseFlag, echoFlag, previewFlag] ++ ConnectionArguments.flags
  positionals := 3
  required := 1

def ofReading (r : Grammar.Reading) : InlineArguments :=
  { command := (r.positional? 0).getD []
    database := r.value? "database" <|> r.positional? 1
    profile := r.positional? 2
    echo := r.has "echo"
    preview := r.has "preview"
    connection := .ofReading r }

def read (words : List Text) : Except UsageError InlineArguments :=
  (grammar.read (Legacy.normalize words)).map ofReading

def runVariables (a : InlineArguments) : RunVariables :=
  { source := a.command, database := a.database, echo := a.echo, preview := a.preview }

end InlineArguments

/-- The command that moves rows between a table and a file. -/
structure BulkArguments where
  table : Text
  direction : Text
  file : Text
  profile : Option Text
  database : Option Text
  connection : ConnectionArguments
deriving DecidableEq, Repr

namespace BulkArguments

def grammar : Grammar where
  flags := databaseFlag :: ConnectionArguments.flags
  positionals := 4
  required := 3

def ofReading (r : Grammar.Reading) : BulkArguments :=
  { table := (r.positional? 0).getD []
    direction := (r.positional? 1).getD []
    file := (r.positional? 2).getD []
    profile := r.positional? 3
    database := r.value? "database"
    connection := .ofReading r }

def read (words : List Text) : Except UsageError BulkArguments :=
  (grammar.read (Legacy.normalize words)).map ofReading

end BulkArguments

/-- The program that has all commands: one of them, and its arguments as they stand. -/
structure ProgramArguments where
  command : Option Text
  args : List Text
deriving DecidableEq, Repr

namespace ProgramArguments

def grammar : Grammar where
  flags := [⟨some 'h', "help", .help⟩, ⟨some 'V', "version", .version⟩]
  positionals := 1
  required := 0
  takesRest := true

def read (words : List Text) : Except UsageError ProgramArguments :=
  (grammar.read words).map fun r => ⟨r.positional? 0, r.rest⟩

end ProgramArguments

end SqlBuild
