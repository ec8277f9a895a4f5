import SqlBuild.Text.Digit

/-!
# Option lines

Option sources are flat files with one directive a line; any other line is a comment.

* `v: name <<value>> description` sets an option, `V:` one that the server resolves itself;
* `c: name + description` switches a conditional on and `-` off, `C:` likewise for the server;
* `-> table database description` says which database placeholder a table belongs to.

Names may be written with or without `&` around them.
-/

namespace SqlBuild

/-- One directive. `dynamic` ones are for the server and never enter SQL text. -/
inductive Directive
  | value (name value description : Text) (dynamic : Bool)
  | conditional (name : Text) (enabled : Bool) (description : Text) (dynamic : Bool)
  | table (table database description : Text)
deriving DecidableEq, Repr

/-- What is wrong with a line that starts like a directive. -/
inductive DirectiveError
  | tableIncomplete
  | valueUnopened
  | valueUnclosed
  | invalidName (written : Text)
  | noSwitch (name found : Text)
deriving DecidableEq, Repr

def DirectiveError.message : DirectiveError → Text
  | tableIncomplete => "table mapping needs a table name and a database placeholder"
  | valueUnopened => "value directive is missing '<<'"
  | valueUnclosed => "value directive is missing '>>'"
  | invalidName written => "invalid option name '" ++ written ++ "'"
  | noSwitch name found =>
    "conditional '" ++ name ++ "' must be followed by '+' or '-', found '" ++ found ++ "'"

/-- A name without the `&` on both sides, if it has them. -/
def bareName (name : Text) : Text :=
  match Text.trim name with
  | '&' :: rest => if rest.getLast? = some '&' then rest.dropLast else '&' :: rest
  | trimmed => trimmed

/-- A name with one `&` on both sides, as it stands in SQL text. -/
def placeholder (name : Text) : Text := '&' :: bareName name ++ ['&']

namespace Directive

/-- The kind recorded in the server's options table. -/
def kindCode : Directive → Text
  | .value _ _ _ dynamic => if dynamic then "V" else "v"
  | .conditional _ _ _ dynamic => if dynamic then "C" else "c"
  | .table .. => "->"

/-- The part of a table line after its arrow. -/
def ofTableBody (body : Text) : Except DirectiveError Directive :=
  let (name, rest) := Text.firstWord body
  let (database, description) := Text.firstWord rest
  if name = [] ∨ database = [] then .error .tableIncomplete
  else .ok (.table name (placeholder database) description)

/-- The part of a value line after its letter and colon. -/
def ofValueBody (dynamic : Bool) (body : Text) : Except DirectiveError Directive :=
  match Text.splitAt? "<<" body with
  | none => .error .valueUnopened
  | some (written, rest) =>
    match Text.splitAt? ">>" rest with
    | none => .error .valueUnclosed
    | some (content, description) =>
      let name := bareName written
      if name = [] ∨ name.any isBlank then .error (.invalidName (Text.trim written))
      else .ok (.value name content (Text.trim description) dynamic)

/-- The part of a conditional line after its letter and colon. -/
def ofConditionalBody (dynamic : Bool) (body : Text) : Except DirectiveError Directive :=
  let (name, rest) := Text.firstWord body
  let (switch, description) := Text.firstWord rest
  if switch = "+" then .ok (.conditional (bareName name) true description dynamic)
  else if switch = "-" then .ok (.conditional (bareName name) false description dynamic)
  else .error (.noSwitch name switch)

/-- The directive on a line; none for a comment or a blank line. -/
def ofLine? (line : Text) : Except DirectiveError (Option Directive) :=
  match Text.trim line with
  | '-' :: '>' :: body => (ofTableBody body).map some
  | 'v' :: ':' :: body => (ofValueBody false body).map some
  | 'V' :: ':' :: body => (ofValueBody true body).map some
  | 'c' :: ':' :: body => (ofConditionalBody false body).map some
  | 'C' :: ':' :: body => (ofConditionalBody true body).map some
  | _ => .ok none

end Directive

end SqlBuild
