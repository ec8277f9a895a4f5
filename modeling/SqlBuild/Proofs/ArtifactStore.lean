import Mathlib.Data.List.Forall2
import SqlBuild.Proofs.Directories
import SqlBuild.Proofs.OptionBuilds

/-!
# Which artifacts share a file

The name of an artifact's file keeps the letters, up to their case, the digits and `-`; everything
else becomes `_`, and so does the border between the company and the environment. So two keys have
the same file exactly when their texts, joined at that border, are alike character by character
(`fileName_eq_iff`). What a key loads is what was saved last under any key with the same file
(`load_of_saveAll`), its own or not.
-/

namespace SqlBuild

namespace CacheKey

/-- A character that stands in a file name as it is, up to its case. -/
def isPlain (c : Char) : Bool := c.isAlphanum || c == '-'

/-- Characters that a file name does not tell apart. -/
def Alike (c d : Char) : Prop := isPlain c = isPlain d ∧ (isPlain c = true → c.toLower = d.toLower)

instance (c d : Char) : Decidable (Alike c d) := inferInstanceAs (Decidable (_ ∧ _))

/-- Whether two keys have the same file. -/
def SharesFile (key key' : CacheKey) : Prop :=
  key.platform = key'.platform ∧
    List.Forall₂ Alike (key.company ++ '_' :: key.environment)
      (key'.company ++ '_' :: key'.environment)

instance (key key' : CacheKey) : Decidable (SharesFile key key') :=
  inferInstanceAs (Decidable (_ ∧ _))

theorem toLower_ne_underscore {c : Char} (h : isPlain c = true) : c.toLower ≠ '_' := by
  intro heq
  rw [eq_of_toLower_eq heq (by decide)] at h
  exact absurd h (by decide)

theorem sanitize_cons (c : Char) (t : Text) :
    sanitize (c :: t) = (if isPlain c then c.toLower else '_') :: sanitize t := rfl

theorem alike_iff {c d : Char} : Alike c d ↔
    (if isPlain c then c.toLower else '_') = if isPlain d then d.toLower else '_' := by
  unfold Alike
  cases hc : isPlain c <;> cases hd : isPlain d
  · simp
  · simpa using (toLower_ne_underscore hd).symm
  · simpa using toLower_ne_underscore hc
  · simp

theorem sanitize_eq_iff : ∀ {s t : Text}, sanitize s = sanitize t ↔ List.Forall₂ Alike s t
  | [], [] => by simp
  | [], d :: t => by simp [sanitize]
  | c :: s, [] => by simp [sanitize]
  | c :: s, d :: t => by
    rw [sanitize_cons, sanitize_cons, List.cons.injEq, List.forall₂_cons, alike_iff,
      sanitize_eq_iff (s := s)]

/-- The border between two texts is written like any other character that is not plain. -/
theorem sanitize_joined (s t : Text) :
    sanitize (s ++ '_' :: t) = sanitize s ++ ("_".toList ++ sanitize t) := by
  have happend : sanitize (s ++ '_' :: t) = sanitize s ++ sanitize ('_' :: t) := List.map_append
  have hmark : (if isPlain '_' then '_'.toLower else '_') = '_' := by decide
  rw [happend, sanitize_cons, hmark]
  simp

theorem fileName_joined (key : CacheKey) : key.fileName = "options_".toList ++
    (sanitize key.platform.name ++ ("_".toList ++
      (sanitize (key.company ++ '_' :: key.environment) ++ ".cache".toList))) := by
  rw [sanitize_joined]
  unfold fileName
  simp only [List.append_assoc]

theorem fileName_eq_iff {key key' : CacheKey} :
    key.fileName = key'.fileName ↔ SharesFile key key' := by
  constructor
  · intro h
    have hplatform := platform_of_fileName h
    rw [fileName_joined, fileName_joined, hplatform, List.append_cancel_left_eq,
      List.append_cancel_left_eq, List.append_cancel_left_eq, List.append_cancel_right_eq] at h
    exact ⟨hplatform, sanitize_eq_iff.1 h⟩
  · rintro ⟨hplatform, halike⟩
    rw [fileName_joined, fileName_joined, hplatform, sanitize_eq_iff.2 halike]

theorem isName_fileName (key : CacheKey) : FileTree.IsName key.fileName :=
  ⟨key.slash_not_mem_fileName, key.fileName_down⟩

end CacheKey

namespace OptionStore

open CacheKey FileTree

variable {directory : Text} {kept kept' : FileTree} {key : CacheKey} {artifact : Artifact}

/-- Loading depends on what stands under the name of the key's file. -/
theorem load_congr (h : ∀ node, kept'.find (fileFor directory key) = .ok node ↔
      kept.find (fileFor directory key) = .ok node) :
    (inDirectory directory).load kept' key = (inDirectory directory).load kept key := by
  dsimp only [inDirectory]
  cases hold : kept.find (fileFor directory key) with
  | ok node =>
    have hnew := (h node).2 hold
    simp only [FileTree.contains, readText, FileTree.read, FileTree.modified?, hold, hnew]
  | error e =>
    cases hnew : kept'.find (fileFor directory key) with
    | ok node =>
      rw [(h node).1 hnew] at hold
      cases hold
    | error e' => simp [FileTree.contains, hold, hnew, Except.toBool]

theorem load_of_find {text : Text} {written : Int}
    (h : kept.find (fileFor directory key) = .ok (.file (Utf8.encode text) written)) :
    (inDirectory directory).load kept key = .ok (some ⟨text, written⟩) := by
  dsimp only [inDirectory]
  simp [FileTree.contains, readText, FileTree.read, FileTree.modified?, h, Except.toBool,
    bind, Except.bind, Utf8.decode_encode]

/-- An artifact that is saved is loaded by all keys with its file; the others load what they loaded
before. -/
theorem load_of_save (hdir : Straight (directory.splitOn '/'))
    (h : (inDirectory directory).save kept key artifact = .ok kept') (key' : CacheKey) :
    (inDirectory directory).load kept' key' =
      if SharesFile key key' then .ok (some artifact)
      else (inDirectory directory).load kept key' := by
  dsimp only [inDirectory] at h
  split at h
  · cases h
  · rename_i made hmade
    split at h
    · rename_i written hwrite
      obtain rfl := Except.ok.inj h
      obtain ⟨p, hp, hfind⟩ := find_of_write hwrite
      have hpath := locate_join hdir key.isName_fileName hp
      by_cases hshare : SharesFile key key'
      · rw [if_pos hshare]
        refine load_of_find ((hfind _ _).2 ⟨p, ?_, by rw [if_pos rfl]⟩)
        rw [fileFor, ← fileName_eq_iff.2 hshare]
        exact hp
      · rw [if_neg hshare]
        refine load_congr fun node => ?_
        -- Another file of the same directory: its name leads to another path.
        have hbeside : ∀ q, made.locate (fileFor directory key') = .ok q → q ≠ p := by
          rintro q hq rfl
          have hpath' := locate_join hdir key'.isName_fileName hq
          rw [hpath] at hpath'
          exact hshare (fileName_eq_iff.1 (by simpa using hpath'))
        refine Iff.trans ?_
          ((extends_makeDirectories hdir hmade).find_join hdir key'.isName_fileName)
        rw [hfind, ← fileFor, find_eq_ok_iff]
        refine exists_congr fun q => and_congr_right fun hq => ?_
        rw [if_neg (hbeside q hq)]
    · cases h

/-- Artifacts saved one after the other. -/
def saveAll {σ : Type} (store : OptionStore σ) (kept : σ) (saved : List (CacheKey × Artifact)) :
    Except StoreError σ :=
  saved.foldlM (fun kept e => store.save kept e.1 e.2) kept

theorem load_of_saveAll (hdir : Straight (directory.splitOn '/')) (key : CacheKey) :
    ∀ {saved : List (CacheKey × Artifact)} {kept : FileTree},
      saveAll (inDirectory directory) kept saved = .ok kept' →
        (inDirectory directory).load kept' key =
          match saved.reverse.find? fun e => SharesFile e.1 key with
          | some e => .ok (some e.2)
          | none => (inDirectory directory).load kept key
  | [], kept, h => by
    rw [Except.ok.inj h]
    rfl
  | (k, a) :: saved, kept, h => by
    rw [saveAll, List.foldlM_cons] at h
    cases hsave : (inDirectory directory).save kept k a with
    | error e =>
      rw [hsave] at h
      cases h
    | ok next =>
      rw [hsave] at h
      rw [load_of_saveAll hdir key h, List.reverse_cons, List.find?_append]
      cases saved.reverse.find? fun e => SharesFile e.1 key with
      | some e => rfl
      | none =>
        rw [load_of_save hdir hsave]
        by_cases hshare : SharesFile k key <;> simp [hshare]

/-- Artifacts are kept for each file, not for each key: a key loads what was saved last under any
key of the same platform whose company and environment, joined, are alike. -/
theorem artifact_per_file (hdir : Straight (directory.splitOn '/'))
    {saved : List (CacheKey × Artifact)}
    (h : saveAll (inDirectory directory) kept saved = .ok kept') (key : CacheKey) :
    (∀ key' : CacheKey, key'.fileName = key.fileName ↔ SharesFile key' key) ∧
      (inDirectory directory).load kept' key =
        match saved.reverse.find? fun e => SharesFile e.1 key with
        | some e => .ok (some e.2)
        | none => (inDirectory directory).load kept key :=
  ⟨fun _ => fileName_eq_iff, load_of_saveAll hdir key h⟩

/-- Two keys of different companies that share a file. -/
def acme : CacheKey := ⟨.mssql, "acme", "eu_dev"⟩

def acmeEurope : CacheKey := ⟨.mssql, "acme_eu", "dev"⟩

def ofAcme : Artifact := ⟨"&cmpy&  acme", 1⟩

def ofAcmeEurope : Artifact := ⟨"&cmpy&  acme_eu", 2⟩

/-- The files once both companies have saved their artifacts. -/
def bothSaved : Except StoreError FileTree :=
  saveAll (inDirectory "/cache") {} [(acme, ofAcme), (acmeEurope, ofAcmeEurope)]

theorem exists_bothSaved : ∃ kept, bothSaved = .ok kept := exists_eq_ok (by decide +kernel)

theorem straight_cache : Straight (("/cache" : Text).splitOn '/') := by
  unfold Straight
  decide +kernel

theorem artifact_per_file_acme : ∃ kept, bothSaved = .ok kept ∧
    (∀ key : CacheKey, key.fileName = acme.fileName ↔ SharesFile key acme) ∧
    (inDirectory "/cache").load kept acme =
      match [(acmeEurope, ofAcmeEurope), (acme, ofAcme)].find? fun e => SharesFile e.1 acme with
      | some e => .ok (some e.2)
      | none => (inDirectory "/cache").load {} acme := by
  obtain ⟨kept, hkept⟩ := exists_bothSaved
  exact ⟨kept, hkept, artifact_per_file straight_cache hkept acme⟩

/-- One company loads what another has saved, in place of its own. -/
theorem artifact_of_another : acme ≠ acmeEurope ∧ acme.fileName = acmeEurope.fileName ∧
    ∃ kept, bothSaved = .ok kept ∧
      (inDirectory "/cache").load kept acme = .ok (some ofAcmeEurope) := by
  obtain ⟨kept, hkept⟩ := exists_bothSaved
  refine ⟨by decide +kernel, fileName_eq_iff.2 (by decide +kernel), kept, hkept, ?_⟩
  rw [load_of_saveAll straight_cache acme hkept]
  rfl

end OptionStore

end SqlBuild
