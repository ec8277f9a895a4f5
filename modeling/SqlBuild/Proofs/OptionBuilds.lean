import SqlBuild.Options.OptionSet
import SqlBuild.Proofs.Encoding
import SqlBuild.Proofs.FileTrees
import SqlBuild.Proofs.LetterCase

/-!
# What a build of an option set does

A build ends in one of three ways (`build_cases`): the set and the store stay as they were, the
dictionary of a fresh artifact is taken, or the sources are compiled and what comes out is kept if
the store works. In a directory, an artifact is the file with the name of its key
(`load_inDirectory`), and saving touches no other file (`save_inDirectory`).
-/

namespace SqlBuild

theorem Artifact.written_of_fresh {artifact : Artifact} {maxAge : Nat} {now instant : Int}
    {modified : List (Option Int)} (h : artifact.isFresh maxAge now modified = true)
    (hi : some instant ∈ modified) : instant ≤ artifact.written := by
  have hmem : instant ∈ modified.filterMap id := List.mem_filterMap.2 ⟨_, hi, rfl⟩
  obtain ⟨latest, hlatest⟩ := Option.isSome_iff_exists.1
    (List.isSome_max?_iff.2 (List.ne_nil_of_mem hmem))
  have hle := (List.max?_eq_some_iff.1 hlatest).2 instant hmem
  unfold Artifact.isFresh newest? at h
  rw [hlatest, Bool.and_eq_true] at h
  have hwritten : latest ≤ artifact.written := by simpa using h.2
  omega

namespace OptionSet

variable {σ : Type} {store : OptionStore σ} {kept : σ} {tree : FileTree} {now : Int} {force : Bool}
  {set : OptionSet}

theorem keep_cases (d : Dictionary) :
    (keep store kept now set d).value = kept ∨
      store.save kept set.env.cacheKey ⟨d.toRecords, now⟩ =
        .ok (keep store kept now set d).value := by
  unfold keep
  split
  · rename_i kept' h
    exact .inr h
  · exact .inl rfl

theorem cached?_eq_some {d : Dictionary} (h : (cached? store kept tree now set).value = some d) :
    ∃ artifact, store.load kept set.env.cacheKey = .ok (some artifact) ∧
      artifact.isFresh set.maxAge now (set.env.optionSources.map tree.modified?) = true ∧
      Dictionary.ofRecords? artifact.text = .ok d := by
  unfold cached? at h
  split at h
  · cases h
  · cases h
  · rename_i artifact hload
    split at h
    · rename_i hfresh
      split at h
      · rename_i found hread
        obtain rfl := Option.some.inj h
        exact ⟨artifact, hload, hfresh, hread⟩
      · cases h
    · cases h

/-- The dictionary of an artifact was taken. -/
structure Loaded (store : OptionStore σ) (kept : σ) (tree : FileTree) (now : Int) (set : OptionSet)
    (artifact : Artifact) (d : Dictionary) : Prop where
  load : store.load kept set.env.cacheKey = .ok (some artifact)
  fresh : artifact.isFresh set.maxAge now (set.env.optionSources.map tree.modified?) = true
  read : Dictionary.ofRecords? artifact.text = .ok d
  complete : missing? tree set.env = none

theorem rebuild_cases (store : OptionStore σ) (kept : σ) (tree : FileTree) (now : Int)
    (set : OptionSet) :
    (∃ e, (rebuild store kept tree now set).value = ⟨.error e, set, kept⟩) ∨
      ∃ d kept', (Dictionary.compile tree set.env).run.value = .ok d ∧
        (rebuild store kept tree now set).value =
          ⟨.ok (), { set with dictionary := some d }, kept'⟩ ∧
        (kept' = kept ∨ store.save kept set.env.cacheKey ⟨d.toRecords, now⟩ = .ok kept') := by
  unfold rebuild
  rw [Noted.value_bind]
  cases hd : (Dictionary.compile tree set.env).run.value with
  | error e => exact .inl ⟨e, rfl⟩
  | ok d => exact .inr ⟨d, _, rfl, rfl, keep_cases d⟩

/-- How a build can end: with everything as it was, with the dictionary of an artifact, or with the
dictionary of the sources. -/
theorem build_cases (store : OptionStore σ) (kept : σ) (tree : FileTree) (now : Int) (force : Bool)
    (set : OptionSet) :
    (∃ result, (build store kept tree now force set).value = ⟨result, set, kept⟩ ∧
        (result = .ok () → set.isBuilt = true)) ∨
      (∃ artifact d, Loaded store kept tree now set artifact d ∧
        (build store kept tree now force set).value =
          ⟨.ok (), { set with dictionary := some d }, kept⟩) ∨
      ∃ d kept', (Dictionary.compile tree set.env).run.value = .ok d ∧
        (build store kept tree now force set).value =
          ⟨.ok (), { set with dictionary := some d }, kept'⟩ ∧
        (kept' = kept ∨ store.save kept set.env.cacheKey ⟨d.toRecords, now⟩ = .ok kept') := by
  unfold build
  by_cases hbuilt : (set.isBuilt && !force) = true
  · rw [if_pos hbuilt]
    exact .inl ⟨.ok (), rfl, fun _ => (Bool.and_eq_true _ _ ▸ hbuilt).1⟩
  · rw [if_neg hbuilt]
    cases hmissing : missing? tree set.env with
    | some e => exact .inl ⟨.error e, rfl, by simp⟩
    | none =>
      rw [Noted.value_bind]
      cases hfound : (if force then pure none else cached? store kept tree now set :
          Noted (Option Dictionary)).value with
      | some d =>
        cases force with
        | true => cases hfound
        | false =>
          obtain ⟨artifact, hload, hfresh, hread⟩ := cached?_eq_some hfound
          exact .inr (.inl ⟨artifact, d, ⟨hload, hfresh, hread, hmissing⟩, rfl⟩)
      | none =>
        rcases rebuild_cases store kept tree now set with ⟨e, he⟩ | hrebuilt
        · exact .inl ⟨.error e, he, by simp⟩
        · exact .inr (.inr hrebuilt)

end OptionSet

namespace CacheKey

theorem slash_not_mem_sanitize (t : Text) : '/' ∉ sanitize t := by
  intro h
  obtain ⟨c, -, hc⟩ := List.mem_map.1 h
  split at hc
  · rename_i hplain
    rw [eq_of_toLower_eq hc (by decide)] at hplain
    exact absurd hplain (by decide)
  · exact absurd hc (by decide)

theorem slash_not_mem_fileName (key : CacheKey) : '/' ∉ key.fileName := by
  unfold fileName
  simp only [List.mem_append, slash_not_mem_sanitize, or_false]
  decide

theorem fileName_eq (key : CacheKey) : ∃ rest, key.fileName =
    ("options_" : Text) ++ (sanitize key.platform.name ++ rest) := by
  unfold fileName
  simp only [List.append_assoc]
  exact ⟨_, rfl⟩

theorem fileName_down (key : CacheKey) :
    key.fileName ≠ [] ∧ key.fileName ≠ "." ∧ key.fileName ≠ ".." := by
  have hlen : 8 ≤ key.fileName.length := by
    obtain ⟨rest, hrest⟩ := fileName_eq key
    rw [hrest, List.length_append]
    exact Nat.le_add_right 8 _
  refine ⟨?_, ?_, ?_⟩ <;>
    · intro h
      rw [h] at hlen
      exact absurd hlen (by decide)

/-- The platform of a key can be told from its file. -/
theorem platform_of_fileName {key key' : CacheKey} (h : key.fileName = key'.fileName) :
    key.platform = key'.platform := by
  obtain ⟨rest, hrest⟩ := fileName_eq key
  obtain ⟨rest', hrest'⟩ := fileName_eq key'
  rw [hrest, hrest'] at h
  have hstart := congrArg List.head? (List.append_cancel_left h)
  cases hp : key.platform <;> cases hp' : key'.platform <;> rw [hp, hp'] at hstart
  · exact absurd (show some 's' = some 'm' from hstart) (by decide)
  · exact absurd (show some 'm' = some 's' from hstart) (by decide)

end CacheKey

namespace OptionStore

variable {directory : Text} {kept kept' : FileTree} {key : CacheKey} {artifact : Artifact}

/-- An artifact that is loaded is the file with the name of its key. -/
theorem load_inDirectory (h : (inDirectory directory).load kept key = .ok (some artifact)) :
    ∃ p content, p.getLast? = some key.fileName ∧
      kept.at? p = some (.file content artifact.written) ∧
      Utf8.decode? content = some artifact.text := by
  dsimp only [inDirectory] at h
  split at h
  · split at h
    · rename_i text htext
      obtain rfl := Option.some.inj (Except.ok.inj h)
      unfold FileTree.readText FileTree.read at htext
      cases hfind : kept.find (fileFor directory key) with
      | error e =>
        rw [hfind] at htext
        cases htext
      | ok node =>
        rw [hfind] at htext
        cases node with
        | directory => cases htext
        | failing => cases htext
        | file content stamp =>
          obtain ⟨p, hp, hnode⟩ := FileTree.find_eq_ok_iff.1 hfind
          refine ⟨p, content, ?_, ?_, ?_⟩
          · exact FileTree.getLast?_of_locate key.slash_not_mem_fileName key.fileName_down hp
          · rw [hnode]
            simp [FileTree.modified?, hfind]
          · cases hfound : Utf8.decode? content with
            | some found =>
              simp only [bind, Except.bind, hfound] at htext
              rw [Except.ok.inj htext]
            | none =>
              simp only [bind, Except.bind, hfound] at htext
              cases htext
    · cases h
  · cases h

/-- Saving changes the file with the name of the key and no other. -/
theorem save_inDirectory (h : (inDirectory directory).save kept key artifact = .ok kept') {q : Path}
    {node : Node} (hnode : node ≠ .directory) (hq : kept'.at? q = some node) :
    (q.getLast? = some key.fileName ∧
        node = .file (Utf8.encode artifact.text) artifact.written) ∨
      kept.at? q = some node := by
  dsimp only [inDirectory] at h
  split at h
  · cases h
  · rename_i made hmade
    split at h
    · rename_i written hwrite
      obtain rfl := Except.ok.inj h
      obtain ⟨-, p, hp, -, hat⟩ := FileTree.at?_write hwrite
      rw [hat] at hq
      split at hq
      · rename_i heq
        rw [heq, FileTree.getLast?_of_locate key.slash_not_mem_fileName key.fileName_down hp]
        exact .inl ⟨rfl, (Option.some.inj hq).symm⟩
      · exact .inr (FileTree.file_of_makeFrom hnode hmade hq)
    · cases h

end OptionStore

end SqlBuild
