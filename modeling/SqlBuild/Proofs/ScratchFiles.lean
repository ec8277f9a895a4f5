import SqlBuild.Proofs.BulkRoundTrip
import SqlBuild.Proofs.ScriptPreview
import SqlBuild.Run.Upgrade

/-!
# What is found in a scratch file

A scratch file that holds a text can be read, and gives the text back. So a batch whose scratch file
is looked up under its own name is run as the script of its text (`Upgrade.Walk.runBatch_eq`), and a
data file has the lines that were meant for it (`Scratch.Holds.findData`). In a directory where one
such file can be made there is one for every text (`Scratch.holds_inDirectory`).
-/

namespace SqlBuild

namespace Scratch

variable {scratch : Scratch} {use : ScratchUse} {text name : Text} {files : FileTree}

theorem Holds.readLossy (h : scratch.Holds use text name files) :
    files.readLossy name = .ok text := by
  obtain ⟨-, modified, hfind⟩ := h
  have hread : files.read name = .ok (Utf8.encode text) := by
    rw [FileTree.read, hfind]
    rfl
  rw [FileTree.readLossy, hread]
  exact congrArg Except.ok (Utf8.decodeLossy_encode text)

theorem Holds.findData (h : scratch.Holds use text name files) :
    DataFile.find files name = .ok (.ofText text) := by
  obtain ⟨-, modified, hfind⟩ := h
  rw [DataFile.find, hfind]
  exact congrArg Except.ok (DataFile.ofBytes_encode text)

/-- Where an empty file can be made, whatever is put in it is held. -/
theorem holds_inDirectory {directory : Text}
    (h : (files.write (use.nameIn directory) [] 0).isOk = true) (text : Text) :
    ∃ held, (inDirectory files directory).Holds use text (use.nameIn directory) held := by
  cases hmade : files.write (use.nameIn directory) [] 0 with
  | error e =>
    rw [hmade] at h
    cases h
  | ok made =>
    obtain ⟨p, hp, hnot, hparent, -⟩ := FileTree.write_eq_ok_iff.1 hmade
    have hwrite : files.write (use.nameIn directory) (Utf8.encode text) 0 =
        .ok (files.set p (.file (Utf8.encode text) 0)) :=
      FileTree.write_eq_ok_iff.2 ⟨p, hp, hnot, hparent, rfl⟩
    refine ⟨_, ?_, 0, FileTree.find_written hwrite⟩
    simp only [inDirectory, hwrite]

end Scratch

namespace Upgrade

/-- There is a scratch file that holds the batch, and its name is left alone by a lookup. -/
def Staged (ctx : Context) (text : Text) : Prop :=
  ∃ name files, ctx.scratch.Holds .batch text name files ∧ ctx.locate name = name

/-- Scratch files in a directory stage every batch, if one can be made there and the name of it is
left alone. -/
theorem staged_inDirectory {ctx : Context} {directory : Text}
    (hscratch : ctx.scratch = Scratch.inDirectory ctx.files directory)
    (hmade : (ctx.files.write (ScratchUse.batch.nameIn directory) [] 0).isOk = true)
    (hname : ctx.locate (ScratchUse.batch.nameIn directory) = ScratchUse.batch.nameIn directory)
    (text : Text) : Staged ctx text := by
  obtain ⟨held, hheld⟩ := Scratch.holds_inDirectory hmade text
  exact ⟨_, held, hscratch ▸ hheld, hname⟩

namespace Walk

variable {ctx : Context} {vars : RunVariables} {text name : Text} {files : FileTree}

/-- What its scratch file makes of a batch: a script of that name. -/
theorem runBatch_of_ok (h : ctx.scratch .batch text = .ok (name, files))
    (database : Option Text) : runBatch ctx vars database text =
      Script.run { ctx with files } { vars.nested name with database } := by
  rw [runBatch, h]

theorem runBatch_of_error {e : ScratchError} (h : ctx.scratch .batch text = .error e)
    (database : Option Text) : runBatch ctx vars database text = throw (.scratch e) := by
  rw [runBatch, h]

/-- A batch is run as the script of its text. -/
theorem runBatch_eq (h : Staged ctx text) (database : Option Text) :
    runBatch ctx vars database text =
      Script.runText ctx { vars.nested [] with database } none text := by
  obtain ⟨name, files, hheld, hname⟩ := h
  have hread : files.readLossy (ctx.locate name) = .ok text := by rw [hname, hheld.readLossy]
  have hrun : Script.run { ctx with files } { vars.nested name with database } = _ :=
    Script.run_eq hread (by simp [RunVariables.nested])
  rw [runBatch_of_ok hheld.1, hrun]
  rfl

end Walk

end Upgrade

end SqlBuild
