import SqlBuild.Options.Resolve

/-!
# The record form

A dictionary is stored with one record a line: the name, padded to forty bytes, then the value,
padded to two hundred characters. White space at the end of a value is not significant.
-/

namespace SqlBuild

/-- The characters of the value column of a record. -/
def valueWidth : Nat := 200

/-- Why a text is no list of records; records are counted from one. -/
inductive RecordError
  | unaligned (number : Nat)
  | unnamed (number : Nat)
deriving DecidableEq, Repr

def RecordError.message : RecordError → Text
  | unaligned number => "record " ++ Text.ofNat number ++ " is not aligned"
  | unnamed number => "record " ++ Text.ofNat number ++ " has no placeholder name"

namespace Dictionary

/-- One entry as a line. -/
def record (entry : Text × Text) : Text :=
  entry.1 ++ List.replicate (nameWidth - Text.byteLength entry.1) ' ' ++
    Text.padEnd valueWidth entry.2 ++ ['\n']

def toRecords (d : Dictionary) : Text := d.entries.flatMap record

/-- The two columns of a line, without the padding. -/
def columns? (line : Text) : Option (Text × Text) :=
  match Text.splitAtByte? nameWidth line with
  | some (name, value) => some (Text.trimEnd name, Text.trimEnd value)
  | none => if Text.byteLength line ≤ nameWidth then some (Text.trimEnd line, []) else none

/-- Reads on into `d`; `number` is the number of the next line. -/
def readRecords (d : Dictionary) (number : Nat) : List Text → Except RecordError Dictionary
  | [] => .ok d
  | line :: rest =>
    if Text.isAllBlank line then readRecords d (number + 1) rest
    else
      match columns? line with
      | none => .error (.unaligned number)
      | some (name, value) =>
        if Text.startsWith name "&" ∧ Text.endsWith name "&" then
          readRecords (d.insert name value) (number + 1) rest
        else .error (.unnamed number)

def ofRecords? (text : Text) : Except RecordError Dictionary :=
  readRecords {} 1 (Text.lines text)

end Dictionary

end SqlBuild
