import SqlBuild.Text.Basic

/-!
# Names of upgrade files

The number of an upgrade stands in the name of its file, after `sct_` and up to the next dot.
-/

namespace SqlBuild

namespace UpgradeName

/-- One character of a caseless comparison in which the long s is an `s`. -/
def sameCaseless (a c : Char) : Bool := a.toLower == c.toLower || (a.toLower == 's' && c == 'ſ')

/-- What follows the word `p`, letters compared without case. -/
def afterWord? : Text → Text → Option Text
  | [], t => some t
  | _ :: _, [] => none
  | a :: p, c :: t => if sameCaseless a c then afterWord? p t else none

/-- A character a number may not contain. -/
def endsNumber (c : Char) : Bool := c == '.' || c == '/' || c == '\\'

/-- The number behind the first `sct_` that has one. -/
def find? : Text → Option Text
  | [] => none
  | c :: t =>
    match (afterWord? "sct_" (c :: t)).map (List.takeWhile (!endsNumber ·)) with
    | some (d :: number) => some (d :: number)
    | _ => find? t

/-- The part of a path after its last separator. -/
def fileName (path : Text) : Text :=
  ((path.splitOnP fun c => c == '/' || c == '\\').getLast?).getD []

/-- The number of the upgrade in the file at `path`. -/
def number? (path : Text) : Option Text := find? (fileName path)

end UpgradeName

end SqlBuild
