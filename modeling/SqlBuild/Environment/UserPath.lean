import SqlBuild.Text.Letter

/-!
# Paths as users write them

A path in the settings or on the command line may name environment variables, as `$NAME`, `${NAME}`
or `${NAME:-default}`, and start with `~` for the home directory. `$$` is a dollar sign; a dollar
sign that starts none of these is kept.
-/

namespace SqlBuild

namespace UserPath

/-- A character of a variable's name. -/
def isNameChar (c : Char) : Bool := isAlphanumeric c || c == '_'

/-- The name and the default written between braces. A default needs a name before it. -/
def braced (body : Text) : Text × Option Text :=
  match Text.splitAt? ":-" body with
  | some (name, fallback) => if name = [] then (body, none) else (name, some fallback)
  | none => (body, none)

/-- What a dollar sign before `rest` stands for, and the number of characters behind it that belong
to it; or the name of the variable that is not set. -/
def reference (lookup : Text → Option Text) (rest : Text) : Except Text (Text × Nat) :=
  match rest with
  | '{' :: r =>
    if '}' ∈ r then
      let body := r.takeWhile (· ≠ '}')
      let (name, fallback) := braced body
      match lookup name, fallback with
      | some value, _ | none, some value => .ok (value, body.length + 2)
      | none, none => .error name
    else .ok ("$\x7b", 1)
  | '$' :: _ => .ok ("$", 1)
  | _ =>
    let name := rest.takeWhile isNameChar
    if name = [] then .ok ("$", 0)
    else
      match lookup name with
      | some value => .ok (value, name.length)
      | none => .error name

/-- Replaces the variables, after passing over the next `k` characters. -/
def expandFrom (lookup : Text → Option Text) : Nat → Text → Except Text Text
  | _, [] => .ok []
  | k + 1, _ :: t => expandFrom lookup k t
  | 0, c :: t =>
    if c = '$' then do
      let (value, k) ← reference lookup t
      return value ++ (← expandFrom lookup k t)
    else (expandFrom lookup 0 t).map (c :: ·)

/-- A leading `~`, alone or before a slash, replaced by the home directory. -/
def expandHome (home : Option Text) (path : Text) : Text :=
  match path, home with
  | '~' :: rest, some directory =>
    if rest = [] ∨ Text.startsWith rest "/" then directory ++ rest else path
  | _, _ => path

/-- The path meant by `template`, or the name of a variable that is not set. A `~` that comes from a
variable is kept. -/
def expand (lookup : Text → Option Text) (template : Text) : Except Text Text :=
  (expandFrom lookup 0 template).map fun path =>
    if Text.startsWith template "~" then expandHome (lookup "HOME") path else path

/-- The complaint about a variable that is not set. -/
def unset (template name : Text) : Text :=
  "Failed to expand path '" ++ template ++ "': error looking key '" ++ name ++
    "' up: environment variable not found"

end UserPath

end SqlBuild
