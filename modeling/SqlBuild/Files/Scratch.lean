import SqlBuild.Files.Tree

/-!
# Scratch files

A text that has to stand in a file for a moment is put in a scratch file: a new one with a name that
is made up, which is taken away once it has been used. There may be no such file, and one that is
there can only be found under its name.
-/

namespace SqlBuild

/-- What a scratch file is for: a batch of an upgrade, or the rows for a work table. -/
inductive ScratchUse
  | batch
  | rows
deriving DecidableEq, Repr

/-- The name of a scratch file in its directory, `made` being the part that is made up. -/
def ScratchUse.fileName (made : Text) : ScratchUse → Text
  | batch => "ibs_upgrade_" ++ made ++ ".sql"
  | rows => "ibs_work_" ++ made ++ ".dat"

/-- The name of a scratch file. In one directory there is at most one of a kind at a time, so the
part that is made up can be the same for all. -/
def ScratchUse.nameIn (directory : Text) (use : ScratchUse) : Text :=
  Path.join directory (use.fileName "000000")

/-- Why there is no scratch file for a text. -/
inductive ScratchError
  | unmade (cause : IoError)
  | unwritten (cause : IoError)
deriving DecidableEq, Repr

namespace ScratchError

def cause : ScratchError → IoError
  | unmade cause | unwritten cause => cause

/-- The complaint about a batch without a file, and why there is none. -/
def message : ScratchError → Text
  | unmade cause => "Failed to create a scratch file for the upgrade batch: " ++ cause.message
  | unwritten cause => "Failed to write the upgrade batch: " ++ cause.message

end ScratchError

/-- What becomes of a text that is put in a scratch file: the name of the file, and the files while
it is among them. As the other files do not change during a run, a text fares the same each time. -/
abbrev Scratch := ScratchUse → Text → Except ScratchError (Text × FileTree)

namespace Scratch

/-- The file for a text is there, and holds the text. -/
def Holds (scratch : Scratch) (use : ScratchUse) (text name : Text) (files : FileTree) : Prop :=
  scratch use text = .ok (name, files) ∧
    ∃ modified, files.find name = .ok (.file (Utf8.encode text) modified)

/-- Scratch files in a directory. -/
def inDirectory (files : FileTree) (directory : Text) : Scratch := fun use text =>
  let name := use.nameIn directory
  match files.write name (Utf8.encode text) 0 with
  | .ok files => .ok (name, files)
  | .error cause => .error (.unmade (.other (cause.message ++ " at path \"" ++ name ++ "\"")))

end Scratch

end SqlBuild
