import SqlBuild.Options.Directive

/-!
# The placeholder dictionary

A dictionary maps placeholders `&name&` to their values. Every name stands in it once, in the order
of its first insertion; inserting it again changes the value and keeps the place. Names of more
than forty bytes do not fit the records a dictionary is stored in (`Options.Record`), so they are
never inserted.
-/

namespace SqlBuild

/-- The bytes of the name column of a record. -/
def nameWidth : Nat := 40

structure Dictionary where
  /-- Names and values in the order of first insertion. -/
  entries : List (Text × Text) := []
deriving DecidableEq, Repr

namespace Dictionary

/-- Whether a name fits its column. -/
def fits (name : Text) : Bool := Text.byteLength name ≤ nameWidth

/-- The value recorded for a placeholder. -/
def get? (d : Dictionary) (name : Text) : Option Text := d.entries.lookup name

/-- The value of `name` becomes `value`, in its place or at the end. -/
def assign (name value : Text) : List (Text × Text) → List (Text × Text)
  | [] => [(name, value)]
  | (n, v) :: rest => if n = name then (n, value) :: rest else (n, v) :: assign name value rest

/-- Records a value; a name that does not fit is left out. -/
def insert (d : Dictionary) (name value : Text) : Dictionary :=
  if fits name then ⟨assign name value d.entries⟩ else d

/-- What is said about a name that is left out. -/
def insertWarnings (name : Text) : List Text :=
  if fits name then []
  else ["Option name '" ++ name ++ "' exceeds " ++ Text.ofNat nameWidth ++
    " characters; skipped."]

def commentOpen : Text := "/*"

def commentClose : Text := "*/"

/-- The longest of the four names of a conditional. -/
def widest (name : Text) : Text := "&endifn_" ++ name ++ "&"

/-- Records the four placeholders of a conditional: text between `&if_n&` and `&endif_n&` is live
when it is enabled and a comment when not, text between `&ifn_n&` and `&endifn_n&` the other way
round. All four are recorded or none. -/
def insertConditional (d : Dictionary) (name : Text) (enabled : Bool) : Dictionary :=
  if fits (widest name) then
    let mark (live : Bool) (text : Text) : Text := if live then [] else text
    (((d.insert ("&if_" ++ name ++ "&") (mark enabled commentOpen)).insert
      ("&endif_" ++ name ++ "&") (mark enabled commentClose)).insert
      ("&ifn_" ++ name ++ "&") (mark (!enabled) commentOpen)).insert
      ("&endifn_" ++ name ++ "&") (mark (!enabled) commentClose)
  else d

/-- What is said about a conditional that is left out. -/
def conditionalWarnings (name : Text) : List Text :=
  if fits (widest name) then []
  else ["Conditional '" ++ name ++ "' exceeds " ++ Text.ofNat nameWidth ++ " characters as '" ++
    widest name ++ "'; skipped."]

end Dictionary

end SqlBuild
