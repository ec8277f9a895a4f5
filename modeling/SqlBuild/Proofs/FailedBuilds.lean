import SqlBuild.Proofs.OptionBuilds
import SqlBuild.Rehearsal.MemoryStore

/-!
# Builds that fail, and stores that do

A build that is due fails when a required file is missing (`build_of_missing`), and otherwise takes
the dictionary its store offers or compiles the sources (`build_of_complete`). Saving comes last and
changes nothing but the store. So an error leaves the set and the store alone, and a store with no
usable artifact, working or not, leaves the result to the compilation.
-/

namespace SqlBuild

/-- What follows a value matters at that value only. -/
theorem Noted.bind_congr_value {α β : Type} {x : Noted α} {f g : α → Noted β}
    (h : f x.value = g x.value) : x >>= f = x >>= g := by
  show Noted.bind x f = Noted.bind x g
  rw [Noted.bind, Noted.bind, h]

namespace OptionSet

/-- Why a store has no dictionary to offer. -/
inductive Unusable {σ : Type} (store : OptionStore σ) (kept : σ) (tree : FileTree) (now : Int)
    (set : OptionSet) : Prop
  | unreadable (e : StoreError) (load : store.load kept set.env.cacheKey = .error e)
  | absent (load : store.load kept set.env.cacheKey = .ok none)
  | stale (artifact : Artifact) (load : store.load kept set.env.cacheKey = .ok (some artifact))
      (old : artifact.isFresh set.maxAge now (set.env.optionSources.map tree.modified?) = false)
  | corrupt (artifact : Artifact) (reason : RecordError)
      (load : store.load kept set.env.cacheKey = .ok (some artifact))
      (read : Dictionary.ofRecords? artifact.text = .error reason)

/-- Whether building does anything. -/
def IsDue (force : Bool) (set : OptionSet) : Prop := set.isBuilt = false ∨ force = true

/-- What the sources of the set compile to. -/
def compiled (tree : FileTree) (set : OptionSet) : Except OptionsError Dictionary :=
  (Dictionary.compile tree set.env).run.value

/-- The stored dictionary that a build may take. -/
def offered {σ : Type} (store : OptionStore σ) (kept : σ) (tree : FileTree) (now : Int)
    (force : Bool) (set : OptionSet) : Noted (Option Dictionary) :=
  if force then pure none else cached? store kept tree now set

variable {σ : Type} {store : OptionStore σ} {kept : σ} {tree : FileTree} {now : Int} {force : Bool}
  {set : OptionSet}

theorem cached?_eq_none (h : Unusable store kept tree now set) :
    (cached? store kept tree now set).value = none := by
  unfold cached?
  cases h with
  | unreadable e load =>
    rw [load]
    rfl
  | absent load =>
    rw [load]
    rfl
  | stale artifact load old => simp [load, old]
  | corrupt artifact reason load read =>
    simp only [load, read]
    split <;> rfl

theorem offered_eq_none (h : force = true ∨ Unusable store kept tree now set) :
    (offered store kept tree now force set).value = none := by
  unfold offered
  split
  · rfl
  · rename_i hforce
    exact cached?_eq_none (h.resolve_left hforce)

theorem missing?_eq_none (hcompany : tree.isFile (set.env.tierFile .company) = true)
    (htables : tree.isFile set.env.tableLocationsFile = true) : missing? tree set.env = none := by
  simp [missing?, hcompany, htables]

theorem exists_missing (h : tree.isFile (set.env.tierFile .company) = false ∨
    tree.isFile set.env.tableLocationsFile = false) : ∃ e, missing? tree set.env = some e := by
  unfold missing?
  cases hcompany : tree.isFile (set.env.tierFile .company) with
  | false => exact ⟨_, rfl⟩
  | true =>
    rcases h with h | h
    · rw [h] at hcompany
      cases hcompany
    · exact ⟨_, by simp [h]; rfl⟩

theorem build_of_missing (hdue : IsDue force set) {e : OptionsError}
    (h : missing? tree set.env = some e) :
    build store kept tree now force set = pure ⟨.error e, set, kept⟩ := by
  have hnot : ¬ (set.isBuilt && !force) = true := by
    rcases hdue with hd | hd <;> simp [hd]
  rw [build, if_neg hnot, h]

theorem build_of_complete (hdue : IsDue force set) (h : missing? tree set.env = none) :
    build store kept tree now force set = offered store kept tree now force set >>= fun found =>
      match found with
      | some d => pure ⟨.ok (), { set with dictionary := some d }, kept⟩
      | none => rebuild store kept tree now set := by
  have hnot : ¬ (set.isBuilt && !force) = true := by
    rcases hdue with hd | hd <;> simp [hd]
  rw [build, if_neg hnot, h]
  rfl

theorem value_rebuild (store : OptionStore σ) (kept : σ) (tree : FileTree) (now : Int)
    (set : OptionSet) : (rebuild store kept tree now set).value =
      match compiled tree set with
      | .error e => ⟨.error e, set, kept⟩
      | .ok d => ⟨.ok (), { set with dictionary := some d }, (keep store kept now set d).value⟩ := by
  unfold rebuild compiled
  rw [Noted.value_bind]
  cases (Dictionary.compile tree set.env).run.value <;> rfl

/-- A compilation that fails does not get to saving. -/
theorem rebuild_congr {e : OptionsError} (h : compiled tree set = .error e)
    (store' : OptionStore σ) : rebuild store' kept tree now set = rebuild store kept tree now set := by
  unfold rebuild
  refine Noted.bind_congr_value ?_
  have herror : (Dictionary.compile tree set.env).run.value = .error e := h
  rw [herror]

/-- A build that ends in an error has come to it before saving. -/
theorem build_of_error {e : OptionsError}
    (h : (build store kept tree now force set).value.result = .error e) :
    (build store kept tree now force set).value = ⟨.error e, set, kept⟩ ∧
      ∀ save, build { store with save } kept tree now force set =
        build store kept tree now force set := by
  by_cases hdue : IsDue force set
  · cases hmissing : missing? tree set.env with
    | some e' =>
      rw [build_of_missing hdue hmissing] at h ⊢
      obtain rfl := Except.error.inj h
      exact ⟨rfl, fun save => build_of_missing hdue hmissing⟩
    | none =>
      rw [build_of_complete hdue hmissing, Noted.value_bind] at h
      simp only [build_of_complete hdue hmissing, Noted.value_bind]
      cases hfound : (offered store kept tree now force set).value with
      | some d =>
        rw [hfound] at h
        cases h
      | none =>
        rw [hfound] at h
        simp only [value_rebuild] at h ⊢
        cases hcompiled : compiled tree set with
        | ok d =>
          rw [hcompiled] at h
          cases h
        | error e' =>
          rw [hcompiled] at h
          obtain rfl := Except.error.inj h
          refine ⟨rfl, fun save => Noted.bind_congr_value ?_⟩
          have hfound' : (offered { store with save } kept tree now force set).value = none := hfound
          rw [hfound']
          exact rebuild_congr hcompiled _
  · have hbuilt : (set.isBuilt && !force) = true := by
      unfold IsDue at hdue
      cases hset : set.isBuilt <;> cases force <;> simp_all
    rw [build, if_pos hbuilt] at h
    cases h

/-- Without a dictionary from the store, the build ends as the compilation does. -/
theorem build_of_unusable (hdue : IsDue force set) (hmissing : missing? tree set.env = none)
    (h : force = true ∨ Unusable store kept tree now set) :
    (build store kept tree now force set).value = (rebuild store kept tree now set).value := by
  rw [build_of_complete hdue hmissing, Noted.value_bind, offered_eq_none h]

/-- What an error leaves, what a missing file leads to, and what becomes of a store that does not
work. -/
theorem build_settles (store : OptionStore σ) (kept : σ) (tree : FileTree) (now : Int)
    (force : Bool) (set : OptionSet) :
    let built := (build store kept tree now force set).value
    (∀ e, built.result = .error e → built.set = set ∧ built.kept = kept ∧
      ∀ save, build { store with save } kept tree now force set =
        build store kept tree now force set) ∧
    (IsDue force set → tree.isFile (set.env.tierFile .company) = false ∨
        tree.isFile set.env.tableLocationsFile = false →
      ∃ e, missing? tree set.env = some e ∧ built.result = .error e) ∧
    (IsDue force set → tree.isFile (set.env.tierFile .company) = true →
        tree.isFile set.env.tableLocationsFile = true →
        force = true ∨ Unusable store kept tree now set →
      built.result = (fun _ => ()) <$> compiled tree set ∧
        ∀ d, compiled tree set = .ok d → built.set = { set with dictionary := some d }) := by
  refine ⟨fun e h => ?_, fun hdue h => ?_, fun hdue hcompany htables h => ?_⟩
  · obtain ⟨hvalue, hsave⟩ := build_of_error h
    rw [hvalue]
    exact ⟨rfl, rfl, hsave⟩
  · obtain ⟨e, he⟩ := exists_missing h
    rw [build_of_missing hdue he]
    exact ⟨e, he, rfl⟩
  · rw [build_of_unusable hdue (missing?_eq_none hcompany htables) h, value_rebuild]
    cases compiled tree set with
    | error e => exact ⟨rfl, by simp⟩
    | ok d =>
      refine ⟨rfl, fun d' hd => ?_⟩
      rw [← Except.ok.inj hd]

open Rehearsal

def unbuilt : OptionSet where
  env :=
    { name := "dev", host := "dbhost", port := none, user := "sa", password := "secret",
      platform := .sybase, company := "acme", language := "1", root := "/sql", rawMode := false,
      named := true }
  maxAge := 3600

/-- The company file alone, with `tables` next to it. -/
def setup (tables : List (Path × Node)) : FileTree where
  entries :=
    (["sql", "CSS", "Setup", "options.acme"], .file (Utf8.encode "v: kind <<plain>>\n") 0) :: tables

def withTables : FileTree := setup [(["sql", "CSS", "Setup", "table_locations"], .file [] 0)]

/-- A store with a fresh artifact of that text. -/
def keeping (text : Text) : MemoryStore := { kept := [(unbuilt.env.cacheKey, ⟨text, 1⟩)] }

/-- A fresh artifact does not stand in for a missing file. A corrupt one, and a store that neither
loads nor saves, leave the compiled dictionary. -/
theorem build_settles_unbuilt :
    (∃ e, let built := (build MemoryStore.store (keeping []) (setup []) 2 false unbuilt).value
      built.result = .error e ∧ built.set = unbuilt ∧ built.kept = keeping []) ∧
    ∀ memory ∈ [keeping "garbage", { keeping [] with isBroken := true }],
      ∃ d, compiled withTables unbuilt = .ok d ∧ d.get? "&kind&" = some "plain".toList ∧
        (build MemoryStore.store memory withTables 2 false unbuilt).value.result = .ok () ∧
        (build MemoryStore.store memory withTables 2 false unbuilt).value.set.dictionary = some d := by
  have hdue : IsDue false unbuilt := .inl rfl
  have hcompiled : ∃ d, compiled withTables unbuilt = .ok d ∧
      d.get? "&kind&" = some "plain".toList := by
    have hany : (compiled withTables unbuilt).toOption.any
        (fun d => d.get? "&kind&" = some "plain".toList) = true := by decide +kernel
    revert hany
    cases compiled withTables unbuilt with
    | error e => exact fun h => by cases h
    | ok d => exact fun h => ⟨d, rfl, of_decide_eq_true h⟩
  refine ⟨?_, fun memory hmemory => ?_⟩
  · obtain ⟨herror, hmissing, -⟩ :=
      build_settles MemoryStore.store (keeping []) (setup []) 2 false unbuilt
    obtain ⟨e, -, he⟩ := hmissing hdue (.inr (by decide +kernel))
    obtain ⟨hset, hkept, -⟩ := herror e he
    exact ⟨e, he, hset, hkept⟩
  · have hunusable : Unusable MemoryStore.store memory withTables 2 unbuilt := by
      rw [List.mem_cons, List.mem_singleton] at hmemory
      rcases hmemory with rfl | rfl
      · exact .corrupt ⟨"garbage", 1⟩ _ rfl rfl
      · exact .unreadable .broken rfl
    obtain ⟨d, hd, hkind⟩ := hcompiled
    obtain ⟨-, -, hcompiles⟩ := build_settles MemoryStore.store memory withTables 2 false unbuilt
    obtain ⟨hresult, hset⟩ :=
      hcompiles hdue (by decide +kernel) (by decide +kernel) (.inr hunusable)
    refine ⟨d, hd, hkind, ?_, ?_⟩
    · rw [hresult, hd]
      rfl
    · rw [hset d hd]

end OptionSet

end SqlBuild
