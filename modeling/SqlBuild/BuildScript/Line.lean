import SqlBuild.BuildScript.Sequence
import SqlBuild.Reference.Marker
import SqlBuild.Text.Digit

/-!
# Lines of build scripts

A line of a build script is a command with its arguments, separated by white space. A placeholder
at the start of a line is resolved before the command is looked up, so a conditional turns a whole
line on or off: a line whose first word is no command is inert.

Among the arguments, `-F` and `-L` give the sequence range and `-D` a database, each with its value
attached or as the next word. Words that only name the server are passed over. Of the other words,
the first that does not start with `-` is the source.
-/

namespace SqlBuild

/-- The compilers of metadata. -/
inductive CompilerKind
  | options
  | tableLocations
  | messages
  | actions
  | requiredFields
deriving DecidableEq, Repr

/-- The command that runs a compiler. -/
def CompilerKind.name : CompilerKind → Text
  | options => "import_options"
  | tableLocations => "create_tbl_locations"
  | messages => "install_msg"
  | actions => "compile_actions"
  | requiredFields => "install_required_fields"

inductive BuildCommand
  | runSql
  | runCreate
  | runUpgrade
  | compile (kind : CompilerKind)
deriving DecidableEq, Repr

namespace BuildCommand

def all : List BuildCommand :=
  [runSql, runCreate, runUpgrade, compile .options, compile .tableLocations, compile .messages,
    compile .actions, compile .requiredFields]

/-- The word for the command in a build script. -/
def name : BuildCommand → Text
  | runSql => "runsql"
  | runCreate => "runcreate"
  | runUpgrade => "i_run_upgrade"
  | compile kind => kind.name

/-- The command a word in any case stands for. -/
def ofName? (word : Text) : Option BuildCommand :=
  all.find? fun command => Text.sameIgnoringCase command.name word

/-- The complaint about a word that is no command. -/
def unknown (word : Text) : Text := "Unknown build command '" ++ word ++ "'"

end BuildCommand

/-- A command line of a build script. -/
structure BuildLine where
  command : BuildCommand
  source : Option Text
  /-- The words that are neither the source nor read as anything else. -/
  args : List Text
  sequence : Option SequenceRange
  /-- The databases, resolved, each once. -/
  databases : List Text
deriving DecidableEq, Repr

/-- Whether a word in any case is among the remaining arguments. -/
def BuildLine.hasFlag (line : BuildLine) (flag : Text) : Bool :=
  line.args.any fun arg => Text.sameIgnoringCase arg flag

/-- What a line of a build script is. -/
inductive ParsedLine
  /-- Blank, or a comment. -/
  | skip
  /-- No command, once the placeholder at its start is resolved. -/
  | inert (text : Text)
  | command (line : BuildLine)
deriving DecidableEq, Repr

namespace BuildLine

/-- The flags that take a value. -/
inductive Flag
  | first
  | last
  | database
deriving DecidableEq, Repr

/-- The flag a word starts with and the value attached to it, if there is one. -/
def flag? (word : Text) : Option (Flag × Option Text) :=
  let attached (value : Text) : Option Text := if value = [] then none else some value
  match Text.afterIgnoringCase? "-F" word, Text.afterIgnoringCase? "-L" word,
    Text.afterIgnoringCase? "-D" word with
  | some value, _, _ => some (.first, attached value)
  | none, some value, _ => some (.last, attached value)
  | none, none, some value => some (.database, attached value)
  | none, none, none => none

/-- A word that names the server, which the environment fixes. -/
def isServer (word : Text) : Bool :=
  Text.lower word == "&sv&" || Text.lower word == "-s&sv&"

/-- A word that is passed over. -/
def isLegacy (word : Text) : Bool := word == "$1" || word == "-o" || isServer word

/-- What the words read so far have given. -/
structure Arguments where
  args : List Text := []
  databases : List Text := []
  first : Option Int := none
  last : Option Int := none
deriving DecidableEq, Repr

/-- Gives a flag its value; without one, a bound is taken back. -/
def Arguments.put (resolve : Text → Text) (a : Arguments) : Flag → Option Text → Arguments
  | .first, value => { a with first := value.bind (Text.signed? 64) }
  | .last, value => { a with last := value.bind (Text.signed? 64) }
  | .database, some value =>
    let database := resolve value
    if database = [] ∨ database ∈ a.databases then a
    else { a with databases := a.databases ++ [database] }
  | .database, none => a

def Arguments.push (root : Text) (a : Arguments) (word : Text) : Arguments :=
  { a with args := a.args ++ [Reference.expandMarker root word] }

/-- Reads the words after a command. -/
def readWords (resolve : Text → Text) (root : Text) (a : Arguments) : List Text → Arguments
  | [] => a
  | word :: rest =>
    if isLegacy word then readWords resolve root a rest
    else if word = "-S" ∧ rest.head?.any isServer then
      readWords resolve root a rest
    else
      match flag? word, rest with
      | some (flag, some value), rest =>
        readWords resolve root (a.put resolve flag (some value)) rest
      | some (flag, none), value :: rest =>
        readWords resolve root (a.put resolve flag (some value)) rest
      | some (flag, none), [] => a.put resolve flag none
      | none, rest => readWords resolve root (a.push root word) rest

/-- The source is the first word that does not start with a dash. -/
def ofArguments (resolve : Text → Text) (command : BuildCommand) (a : Arguments) : BuildLine :=
  let isPlain (word : Text) : Bool := !Text.startsWith word "-"
  { command
    source := (a.args.find? isPlain).map resolve
    args := a.args.eraseP isPlain
    sequence := SequenceRange.ofBounds? a.first a.last
    databases := a.databases }

end BuildLine

namespace ParsedLine

/-- The line with the placeholder at its start resolved. -/
def resolveHead (resolve : Text → Text) (text : Text) : Text :=
  match text with
  | '&' :: rest =>
    if '&' ∈ rest then
      let name := rest.takeWhile (· ≠ '&')
      Text.trim (resolve ('&' :: name ++ ['&']) ++ rest.drop (name.length + 1))
    else text
  | _ => text

/-- The command a trimmed line with nothing to resolve at its start is, or the line itself. -/
def ofResolved (resolve : Text → Text) (root text : Text) : ParsedLine :=
  let (word, rest) := text.span (!isBlank ·)
  match BuildCommand.ofName? word with
  | none => .inert text
  | some found =>
    .command (BuildLine.ofArguments resolve found
      (BuildLine.readWords resolve root {} (Text.words rest)))

/-- Reads a line; `resolve` replaces placeholders and `root` the source root marker. A leading `#NT`
is not part of the line. -/
def ofLine (resolve : Text → Text) (root line : Text) : ParsedLine :=
  let trimmed := Text.trim line
  let text := match Text.afterIgnoringCase? "#NT" trimmed with
    | some rest => Text.trimStart rest
    | none => trimmed
  if text = [] ∨ Text.startsWith text "#" then .skip
  else ofResolved resolve root (resolveHead resolve text)

end ParsedLine

end SqlBuild
