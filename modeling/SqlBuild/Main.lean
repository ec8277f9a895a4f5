import SqlBuild.CommandLine.Program

/-!
# The program

The program sees the files below its working directory, below the source root and where settings and
artifacts are kept. It starts no clients and opens no connections: previews work, and whatever needs
a server ends with the complaint that there is no way to it. What has changed among the files is
written back at the end.
-/

namespace SqlBuild

namespace Program

/-- A stage without servers, which keeps what is printed, latest first. -/
def offline : Stage (List Text) where
  console := ⟨fun s => (false, s), fun text s => (.ok (), text :: s), fun _ s => s⟩
  collect s := (s.reverse.flatten, [])
  programs :=
    { start := fun _ s => (.error .notFound, s)
      feed := fun _ s => ((.error .brokenPipe, []), s)
      drop := fun s => s
      staging := fun _ => []
      transfer := fun _ content s => ((.error .notFound, content), s) }
  link :=
    { connect := fun _ _ s => (.error (.unreachable .unreachable), s)
      query := fun _ s => (⟨[], none⟩, s)
      close := fun s => (.ok (), s) }

/-- The parts of an absolute path. -/
def partsOf (path : String) : Path := (path.toList.splitOn '/').filter (· ≠ [])

/-- An instant in nanoseconds. -/
def nanosOf (time : IO.FS.SystemTime) : Int := time.sec * 1000000000 + time.nsec.toNat

/-- The variables of the environment. -/
def environmentVariables : IO (List (Text × Text)) := do
  let bytes ← IO.FS.readBinFile "/proc/self/environ"
  return (bytes.toList.splitOn 0).map fun entry =>
    let text := Utf8.decodeLossy entry
    let name := text.takeWhile (· ≠ '=')
    (name, text.drop (name.length + 1))

/-- The instant at which a file made now is written. -/
def instant : IO Int := do
  let (_, path) ← IO.FS.createTempFile
  let time := (← path.metadata).modified
  IO.FS.removeFile path
  return nanosOf time

/-- Adds what stands at a path, and everything below it. -/
partial def scan (tree : FileTree) (path : String) : IO FileTree := do
  let here ← IO.currentDir
  let full := here / path
  if ← full.isDir then
    let mut tree := tree.set (partsOf full.toString) .directory
    for entry in ← full.readDir do
      tree ← scan tree entry.path.toString
    return tree
  else if ← full.pathExists then
    try
      let bytes ← IO.FS.readBinFile full
      let modified := nanosOf (← full.metadata).modified
      return tree.set (partsOf full.toString) (.file bytes.toList modified)
    catch _ => return tree.set (partsOf full.toString) .failing
  else return tree

/-- Adds a directory, if it is there, and nothing below it. -/
def addDirectory (tree : FileTree) (path : String) : IO FileTree := do
  let full := (← IO.currentDir) / path
  return if ← full.isDir then tree.set (partsOf full.toString) .directory else tree

/-- Writes what is new or different. -/
def writeBack (old new : FileTree) : IO Unit := do
  for (parts, node) in new.entries.reverse do
    if old.at? parts != some node then
      let path : String := String.ofList (Path.name parts)
      match node with
      | .directory => IO.FS.createDirAll path
      | .file content _ => IO.FS.writeBinFile path content.toByteArray
      | .failing => pure ()

/-- The surroundings of the program, with the files below `root` if it is known. -/
def surroundings (root : Option Text) : IO Surroundings := do
  let values ← environmentVariables
  let here := (← IO.currentDir).toString
  let bare : Surroundings :=
    ⟨{ workingDirectory := partsOf here }, ← instant, fun name => values.lookup name⟩
  let places := [here.toList, bare.settingsFile.path, bare.cacheDirectory] ++ root.toList
  let files ← addDirectory bare.files (String.ofList bare.scratchDirectory)
  let files ← places.foldlM (fun tree path => scan tree (String.ofList path)) files
  return { bare with files }

/-- The source root that a command line leads to. -/
def rootOf (around : Surroundings) (program : Program) (words : List Text) : Option Text := do
  let (word, rest) ← (program.split words).toOption
  let command ← Command.ofName? word
  let request ← (Request.ofWords around.lookup command rest).toOption
  let env ← (Job.target around request).toOption
  return env.root

end Program

end SqlBuild

open SqlBuild in
def main (args : List String) : IO UInt32 := do
  let words := args.map String.toList
  let name := ((← IO.appPath).fileName.getD "").toList
  let program := (Program.ofName? name).getD .allCommands
  let first ← Program.surroundings none
  let around ← match Program.rootOf first program words with
    | none => pure first
    | some root => Program.surroundings (some root)
  let (ending, files, _) := program.run Program.offline around words []
  Program.writeBack around.files files
  IO.print (String.ofList ending.output)
  IO.eprint (String.ofList ending.errors)
  return UInt32.ofNat ending.code
