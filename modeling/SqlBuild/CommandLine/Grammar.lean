import SqlBuild.Text.Digit

/-!
# Command line grammars

A grammar lists the flags and the positional arguments of a command. Words that start with a dash
are flags: `--name`, `--name=value`, or a dash and letters, of which the last may have its value
attached, after an equals sign or not. After `--` every word is positional.

A flag that waits for its value is settled when the next argument is met, so an error in its value
comes before anything that is found later, and after whatever shows that the next word cannot be
read at all.

This stands for what the library `clap` makes of the grammars of the commands here: which words are
flags, values and positional arguments, and the kind of the error that is met first. The text of the
error is left out, and so is what no command has: subcommands, flags that exclude each other or take
their values from variables, and abbreviated names.
-/

namespace SqlBuild

/-- Why a command line is refused, or answered with help instead. -/
inductive UsageError
  | unknownArgument
  | missingRequiredArgument
  | invalidValue
  | valueValidation
  | argumentConflict
  | tooManyValues
  | displayHelp
  | displayVersion
deriving DecidableEq, Repr

/-- What a flag takes. -/
inductive Takes
  | nothing
  | text
  /-- A number of 64 bits. -/
  | number
  /-- A text, or `missing` when none is given. -/
  | optionalText (missing : Text)
  | help
  | version
deriving DecidableEq, Repr

structure Flag where
  short : Option Char
  long : Text
  takes : Takes
deriving DecidableEq, Repr

def Flag.takesValue (flag : Flag) : Bool :=
  match flag.takes with
  | .text | .number | .optionalText _ => true
  | _ => false

structure Grammar where
  flags : List Flag
  /-- How many positional arguments there may be, and how many there must be. -/
  positionals : Nat
  required : Nat
  /-- Whether everything behind the positional arguments is taken as it stands. -/
  takesRest : Bool := false
deriving Repr

namespace Grammar

/-- What the words read so far have given. -/
structure Reading where
  /-- The flags given, by their long names, with their values. -/
  given : List (Text × Text) := []
  /-- The flag that is not settled yet, with its value if it has one. -/
  pending : Option (Flag × Option Text) := none
  /-- Whether the next word may be the value of the pending flag. -/
  awaiting : Bool := false
  positionals : List Text := []
  rest : List Text := []
  /-- Whether only positional arguments follow. -/
  trailing : Bool := false
deriving Repr

namespace Reading

/-- Records a flag that was given once before this at most. -/
def give (r : Reading) (flag : Flag) (value : Text) : Except UsageError Reading :=
  if (r.given.lookup flag.long).isSome then .error .argumentConflict
  else if flag.takes = .number ∧ (Text.signed? 64 value).isNone then .error .valueValidation
  else .ok { r with given := (flag.long, value) :: r.given }

/-- Records a flag with the value it has been given. -/
def react (r : Reading) (flag : Flag) (value : Option Text) : Except UsageError Reading :=
  match flag.takes, value with
  | .help, _ => .error .displayHelp
  | .version, _ => .error .displayVersion
  | .nothing, _ => r.give flag []
  | .optionalText missing, none => r.give flag missing
  | _, some value => r.give flag value
  | _, none => .error .invalidValue

/-- Settles the pending flag. -/
def settle (r : Reading) : Except UsageError Reading :=
  match r.pending with
  | none => .ok r
  | some (flag, value) => { r with pending := none, awaiting := false }.react flag value

/-- Meets a flag that takes a value, attached or to come. -/
def expectValue (r : Reading) (flag : Flag) (attached : Option Text) :
    Except UsageError Reading := do
  let r ← r.settle
  match attached with
  | some value => r.react flag (some value)
  | none => return { r with pending := some (flag, none), awaiting := true }

/-- Meets a flag that takes no value. -/
def meet (r : Reading) (flag : Flag) : Except UsageError Reading := do
  (← r.settle).react flag none

end Reading

/-- Whether the next positional argument may look like a flag. -/
def takesDashes (g : Grammar) (r : Reading) : Bool :=
  g.takesRest && g.positionals ≤ r.positionals.length

def findShort? (g : Grammar) (c : Char) : Option Flag := g.flags.find? (·.short = some c)

def findLong? (g : Grammar) (name : Text) : Option Flag := g.flags.find? (·.long = name)

/-- A word as a positional argument. -/
def positional (g : Grammar) (r : Reading) (word : Text) : Except UsageError Reading :=
  if r.positionals.length < g.positionals then do
    let r ← r.settle
    return { r with positionals := r.positionals ++ [word], awaiting := false }
  else if g.takesRest then do
    let r ← r.settle
    return { r with rest := r.rest ++ [word], awaiting := false, trailing := true }
  else .error .unknownArgument

/-- A word that is no flag: the value that is awaited, or a positional argument. -/
def plain (g : Grammar) (r : Reading) (word : Text) : Except UsageError Reading :=
  match r.pending with
  | some (flag, _) =>
    if r.awaiting then .ok { r with pending := some (flag, some word), awaiting := false }
    else g.positional r word
  | none => g.positional r word

/-- The letters behind a single dash. -/
def shorts (g : Grammar) (r : Reading) : Text → Except UsageError Reading
  | [] => .ok r
  | c :: rest =>
    match g.findShort? c with
    | none => .error .unknownArgument
    | some flag =>
      if flag.takesValue then
        r.expectValue flag (match rest with
          | [] => none
          | '=' :: value => some value
          | value => some value)
      else do g.shorts (← r.meet flag) rest

/-- A word behind two dashes. -/
def long (g : Grammar) (r : Reading) (word body : Text) : Except UsageError Reading :=
  let name := body.takeWhile (· ≠ '=')
  let attached := if '=' ∈ body then some (body.drop (name.length + 1)) else none
  match g.findLong? name with
  | some flag =>
    if flag.takesValue then r.expectValue flag attached
    else if attached.isSome then .error .tooManyValues
    else r.meet flag
  | none => if g.takesDashes r then g.plain r word else .error .unknownArgument

/-- Reads one word. -/
def step (g : Grammar) (r : Reading) (word : Text) : Except UsageError Reading :=
  if r.trailing then g.positional r word
  else
    match word with
    | ['-', '-'] => .ok { r with trailing := true }
    | '-' :: '-' :: body => g.long r word body
    | '-' :: c :: letters =>
      if g.takesDashes r && (c :: letters).any fun d => (g.findShort? d).isNone then g.plain r word
      else g.shorts r (c :: letters)
    | _ => g.plain r word

/-- Reads a whole command line. -/
def read (g : Grammar) (words : List Text) : Except UsageError Reading := do
  let r ← (← words.foldlM g.step {}).settle
  if r.positionals.length < g.required then .error .missingRequiredArgument else return r

/-- The value of a flag that was given. -/
def Reading.value? (r : Reading) (flag : Text) : Option Text := r.given.lookup flag

/-- Whether a flag was given. -/
def Reading.has (r : Reading) (flag : Text) : Bool := (r.value? flag).isSome

/-- The value of a number flag that was given. -/
def Reading.number? (r : Reading) (flag : Text) : Option Int :=
  (r.value? flag).bind (Text.signed? 64)

/-- A positional argument, counted from zero. -/
def Reading.positional? (r : Reading) (n : Nat) : Option Text := r.positionals[n]?

end Grammar

end SqlBuild
