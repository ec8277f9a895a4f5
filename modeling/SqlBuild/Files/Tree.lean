import SqlBuild.Files.Error
import SqlBuild.Text.Utf8

/-!
# File trees

A file tree maps paths to files and directories; every directory on the way to an entry exists
without being listed. Names of files are texts in which `/` separates the parts, `.` stays and `..`
goes up; a name without a leading `/` starts at the working directory. There are no links: whatever
stands at a path stands at no other one.

Instants are counted in nanoseconds.
-/

namespace SqlBuild

/-- The parts of a path from the root, without `.` and `..`. -/
abbrev Path := List Text

namespace Path

/-- The name `b` seen from the directory `a`. -/
def join (a b : Text) : Text :=
  if Text.startsWith b "/" then b
  else if a = [] ∨ Text.endsWith a "/" then a ++ b
  else a ++ "/" ++ b

/-- What names are compared by, before anything is looked up: whether they start at the root, and
their parts. Parts that are empty do not count, and `.` counts as the first part only. -/
def components (t : Text) : Bool × List Text :=
  let parts := t.splitOn '/'
  (Text.startsWith t "/", (parts.take 1).filter (· ≠ []) ++
    (parts.drop 1).filter fun part => part ≠ [] ∧ part ≠ ".")

/-- Two names are spellings of one path. -/
def Same (a b : Text) : Prop := components a = components b

instance (a b : Text) : Decidable (Same a b) := inferInstanceAs (Decidable (_ = _))

/-- The absolute name of a path. -/
def name (p : Path) : Text := if p = [] then "/" else p.flatMap ('/' :: ·)

/-- The part of a name after its last `/`. -/
def lastPart (t : Text) : Text := ((t.splitOn '/').getLast?).getD []

end Path

inductive Node
  | directory
  | file (content : Bytes) (modified : Int)
  /-- A file that exists, but fails every reading. -/
  | failing
deriving DecidableEq, Repr

structure FileTree where
  entries : List (Path × Node) := []
  workingDirectory : Path := []
deriving Repr

namespace FileTree

/-- What stands at a path. -/
def at? (tree : FileTree) (p : Path) : Option Node :=
  match tree.entries.lookup p with
  | some node => some node
  | none => if p = [] ∨ tree.entries.any (fun e => p.isPrefixOf e.1) then some .directory else none

/-- One part of a name, taken in the directory `p`. -/
def step (tree : FileTree) (p : Path) (part : Text) : Except IoError Path :=
  match tree.at? p with
  | some .directory =>
    .ok (if part = [] ∨ part = "." then p else if part = ".." then p.dropLast else p ++ [part])
  | some _ => .error .notDirectory
  | none => .error .notFound

/-- The path a name leads to; its last part need not exist. -/
def locate (tree : FileTree) (name : Text) : Except IoError Path :=
  if name = [] then .error .notFound
  else (name.splitOn '/').foldlM tree.step
    (if Text.startsWith name "/" then [] else tree.workingDirectory)

/-- What stands under a name. -/
def find (tree : FileTree) (name : Text) : Except IoError Node := do
  match tree.at? (← tree.locate name) with
  | some node => .ok node
  | none => .error .notFound

def contains (tree : FileTree) (name : Text) : Bool := (tree.find name).toBool

def isFile (tree : FileTree) (name : Text) : Bool :=
  match tree.find name with
  | .ok (.file ..) | .ok .failing => true
  | _ => false

def isDirectory (tree : FileTree) (name : Text) : Bool :=
  match tree.find name with
  | .ok .directory => true
  | _ => false

/-- The bytes of a file. -/
def read (tree : FileTree) (name : Text) : Except IoError Bytes := do
  match ← tree.find name with
  | .file content _ => .ok content
  | .directory => .error .isDirectory
  | .failing => .error .failing

/-- The text of a file whose bytes have to be well-formed. -/
def readText (tree : FileTree) (name : Text) : Except IoError Text := do
  match Utf8.decode? (← tree.read name) with
  | some text => .ok text
  | none => .error .notUtf8

/-- The text of a file, U+FFFD in place of bytes that are no character. -/
def readLossy (tree : FileTree) (name : Text) : Except IoError Text :=
  (tree.read name).map Utf8.decodeLossy

/-- When the file under a name was last written. -/
def modified? (tree : FileTree) (name : Text) : Option Int :=
  match tree.find name with
  | .ok (.file _ modified) => some modified
  | _ => none

/-- The one name that stands for all names of the same file. As there are no links, it is the
absolute name without `.` and `..`; links would have to be followed to what they lead to. -/
def identity (tree : FileTree) (name : Text) : Text :=
  match tree.locate name with
  | .ok p => p.name
  | .error _ => name

/-- Replaces or adds what stands at a path. -/
def set (tree : FileTree) (p : Path) (node : Node) : FileTree :=
  { tree with entries := (p, node) :: tree.entries.filter (·.1 ≠ p) }

/-- Takes away what stands at a path. -/
def erase (tree : FileTree) (p : Path) : FileTree :=
  { tree with entries := tree.entries.filter (·.1 ≠ p) }

/-- Writes a file whose directory exists, in place of an earlier one. -/
def write (tree : FileTree) (name : Text) (content : Bytes) (now : Int) :
    Except IoError FileTree := do
  let p ← tree.locate name
  match tree.at? p.dropLast, tree.at? p with
  | _, some .directory => .error .isDirectory
  | some .directory, _ => .ok (tree.set p (.file content now))
  | some _, _ => .error .notDirectory
  | none, _ => .error .notFound

/-- Makes the directories `parts`, each in the one before it, the first in `p`; `..` goes up. -/
def makeFrom (tree : FileTree) (p : Path) : List Text → Except IoError FileTree
  | [] => .ok tree
  | part :: rest =>
    if part = ".." then makeFrom tree p.dropLast rest
    else
      match tree.at? (p ++ [part]) with
      | none => makeFrom (tree.set (p ++ [part]) .directory) (p ++ [part]) rest
      | some .directory => makeFrom tree (p ++ [part]) rest
      | some _ => .error (if rest = [] then .alreadyExists else .notDirectory)

/-- Makes the directory of a name and every directory on the way to it. -/
def makeDirectories (tree : FileTree) (name : Text) : Except IoError FileTree :=
  tree.makeFrom (if Text.startsWith name "/" then [] else tree.workingDirectory)
    ((name.splitOn '/').filter fun part => part ≠ [] ∧ part ≠ ".")

/-- Whether two paths stand in order, which is that of their names from the root on. -/
def inOrder (p q : Path) : Bool := !List.lex q p fun a b => List.lex a b

/-- The files below a directory, each directory in the order of its names, with the names by which
they are reached from it. -/
def filesBelow (tree : FileTree) (name : Text) : List Text :=
  match tree.locate name with
  | .error _ => []
  | .ok p =>
    let below := tree.entries.filterMap fun (q, node) =>
      match p.isPrefixOf? q, node with
      | some (part :: rest), .file .. | some (part :: rest), .failing => some (part :: rest)
      | _, _ => none
    (below.mergeSort inOrder).map fun parts =>
      parts.foldl Path.join name

end FileTree

end SqlBuild
