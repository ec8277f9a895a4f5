import SqlBuild.Proofs.DistinctKeys
import SqlBuild.Settings.Target

/-!
# Which profile a name finds

A profile of the name itself goes before one that only has it among its other names, in whatever
order the profiles are looked through. Between two profiles of equal standing the order decides, and
nothing keeps a settings file from having such two: names that differ in case only, or another name
given to two profiles. So the profile, and the target with it, is the same in every order exactly
when a name has no more than one candidate (`Target.resolve_reordered`).
-/

namespace SqlBuild

namespace Settings

/-- The profiles of a name, in any case. -/
def namesakes (settings : Settings) (name : Text) : List (Text × Profile) :=
  settings.profiles.filter fun p => Text.sameIgnoringCase p.1 name

/-- The profiles that have a name among their other names. -/
def aliased (settings : Settings) (name : Text) : List (Text × Profile) :=
  settings.profiles.filter fun p => p.2.hasAlias name

/-- The profiles a name may find: its namesakes, and only when there are none the aliased ones. -/
def candidates (settings : Settings) (name : Text) : List (Text × Profile) :=
  if settings.namesakes name = [] then settings.aliased name else settings.namesakes name

variable {settings settings' : Settings} {name : Text} {p : Text × Profile}

theorem find?_eq_head? : settings.find? name = (settings.candidates name).head? := by
  have hnamesakes : settings.profiles.find? (fun p => Text.sameIgnoringCase p.1 name) =
      (settings.namesakes name).head? := List.head?_filter.symm
  have haliased : settings.profiles.find? (fun p => p.2.hasAlias name) =
      (settings.aliased name).head? := List.head?_filter.symm
  rw [find?, hnamesakes, haliased, candidates]
  cases h : settings.namesakes name with
  | nil => simp
  | cons p more => simp

theorem candidates_perm (h : settings'.profiles.Perm settings.profiles) :
    (settings'.candidates name).Perm (settings.candidates name) := by
  have hnamesakes : (settings'.namesakes name).Perm (settings.namesakes name) := h.filter _
  have hnone : settings'.namesakes name = [] ↔ settings.namesakes name = [] := by
    rw [← List.length_eq_zero_iff, ← List.length_eq_zero_iff, hnamesakes.length_eq]
  unfold candidates
  simp only [hnone]
  split_ifs
  · exact h.filter _
  · exact hnamesakes

theorem candidates_sublist : (settings.candidates name).Sublist settings.profiles := by
  unfold candidates
  split_ifs
  · exact List.filter_sublist
  · exact List.filter_sublist

/-- Whoever is a candidate and stands first is found. -/
theorem find?_cons {rest : List (Text × Profile)}
    (hp : p ∈ Settings.candidates ⟨p :: rest⟩ name) : Settings.find? ⟨p :: rest⟩ name = some p := by
  have hfirst : ∀ choice : Text × Profile → Bool, p ∈ (p :: rest).filter choice →
      ((p :: rest).filter choice).head? = some p := fun choice h => by
    rw [List.head?_filter, List.find?_cons_of_pos (List.mem_filter.1 h).2]
  rw [find?_eq_head?]
  unfold candidates at hp ⊢
  split_ifs at hp ⊢
  · exact hfirst _ hp
  · exact hfirst _ hp

/-- In some order a name finds any of its candidates, and in no order anything else. -/
theorem exists_found_iff : (∃ settings' : Settings, settings'.profiles.Perm settings.profiles ∧
    settings'.find? name = some p) ↔ p ∈ settings.candidates name := by
  constructor
  · rintro ⟨settings', horder, hfound⟩
    rw [find?_eq_head?] at hfound
    exact (candidates_perm horder).subset (List.mem_of_head? hfound)
  · intro hp
    have hfirst : (p :: settings.profiles.erase p).Perm settings.profiles :=
      (List.perm_cons_erase (candidates_sublist.subset hp)).symm
    exact ⟨⟨p :: settings.profiles.erase p⟩, hfirst,
      find?_cons ((candidates_perm hfirst).symm.subset hp)⟩

theorem find?_of_perm (h : settings'.profiles.Perm settings.profiles)
    (hone : (settings.candidates name).length ≤ 1) :
    settings'.find? name = settings.find? name := by
  have hperm : (settings'.candidates name).Perm (settings.candidates name) := candidates_perm h
  rw [find?_eq_head?, find?_eq_head?]
  match settings.candidates name, hone, hperm with
  | [], _, hperm => rw [hperm.eq_nil]
  | [p], _, hperm => rw [hperm.eq_singleton]

/-- Of two candidates each is found first in some order, and their names differ. -/
theorem exists_reordered (hnodup : (settings.profiles.map Prod.fst).Nodup)
    (hmany : 1 < (settings.candidates name).length) :
    ∃ settings' : Settings, settings'.profiles.Perm settings.profiles ∧ ∃ p p',
      settings.find? name = some p ∧ settings'.find? name = some p' ∧ p'.1 ≠ p.1 := by
  match hcandidates : settings.candidates name, hmany with
  | p :: p' :: more, _ =>
    have hp' : p' ∈ settings.candidates name := hcandidates ▸ by simp
    obtain ⟨settings', horder, hfound⟩ := exists_found_iff.2 hp'
    refine ⟨settings', horder, p, p', by rw [find?_eq_head?, hcandidates]; rfl, hfound, ?_⟩
    have hnames : ((p :: p' :: more).map Prod.fst).Nodup :=
      hcandidates ▸ hnodup.sublist (candidates_sublist.map Prod.fst)
    rw [List.map_cons, List.nodup_cons, List.map_cons] at hnames
    exact fun heq => hnames.1 (heq ▸ List.mem_cons_self)

end Settings

/-- The settings a file gives have no two profiles of one name. -/
theorem SettingsFile.nodup_of_read {file : SettingsFile} {tree : FileTree} {settings : Settings}
    (h : file.read tree = .ok settings) : (settings.profiles.map Prod.fst).Nodup := by
  unfold SettingsFile.read at h
  split at h
  · split at h
    · cases h
    · split at h
      · rename_i htext
        exact Except.ok.inj h ▸ Settings.nodup_of_ofText? htext
      · cases h
  · exact Except.ok.inj h ▸ List.nodup_nil

namespace Target

/-- The target of a command that asks for a name, its settings looked through in their order. -/
def ofSettings (settings : Settings) (name : Text) (overrides : Overrides)
    (userVariables lookup : Text → Option Text) : Noted (Except TargetError Environment) := do
  let found ← match settings.find? name with
    | some (name, profile) => pure (profile.environment userVariables name)
    | none => ofVariables lookup (some name)
  return found.map overrides.apply

theorem resolve_of_read {tree : FileTree} {file : SettingsFile} {settings : Settings}
    (hread : file.read tree = .ok settings) (name : Text) (overrides : Overrides)
    (userVariables lookup : Text → Option Text) :
    resolve tree file (some name) overrides userVariables lookup =
      ofSettings settings name overrides userVariables lookup := by
  rw [resolve, ofSettings, profile?, hread]
  rw [show (Except.ok settings : Except TargetError Settings).map (·.find? name) =
    .ok (settings.find? name) from rfl]
  cases settings.find? name <;> rfl

/-- The name of the profile behind a target, also when its source root cannot be had. -/
def profileOf? : Except TargetError Environment → Option Text
  | .ok env => some env.name
  | .error (.badSource profile ..) => some profile
  | .error _ => none

theorem profileOf?_ofSettings {settings : Settings} {name : Text} {p : Text × Profile}
    (h : settings.find? name = some p) (overrides : Overrides)
    (userVariables lookup : Text → Option Text) :
    profileOf? (ofSettings settings name overrides userVariables lookup).value = some p.1 := by
  rw [ofSettings, h]
  simp only [Noted.value_bind, Noted.value_pure, Profile.environment]
  cases UserPath.expand userVariables p.2.source <;> rfl

/-- Whatever the order of the profiles, a name finds one of its candidates; every candidate is found
in some order. The profile and the target do not depend on the order exactly when there is no second
candidate. -/
theorem resolve_reordered {tree : FileTree} {file : SettingsFile} {settings : Settings}
    (hread : file.read tree = .ok settings) (name : Text) (overrides : Overrides)
    (userVariables lookup : Text → Option Text) :
    (∀ p, (∃ settings' : Settings, settings'.profiles.Perm settings.profiles ∧
        settings'.find? name = some p) ↔ p ∈ settings.candidates name) ∧
      ((∀ settings' : Settings, settings'.profiles.Perm settings.profiles →
          settings'.find? name = settings.find? name) ↔
        (settings.candidates name).length ≤ 1) ∧
      ((∀ settings' : Settings, settings'.profiles.Perm settings.profiles →
          ofSettings settings' name overrides userVariables lookup =
            resolve tree file (some name) overrides userVariables lookup) ↔
        (settings.candidates name).length ≤ 1) := by
  have hnodup := SettingsFile.nodup_of_read hread
  refine ⟨fun p => Settings.exists_found_iff, ⟨fun hsame => ?_, fun hone settings' horder =>
    Settings.find?_of_perm horder hone⟩, ⟨fun hsame => ?_, fun hone settings' horder => ?_⟩⟩
  · by_contra hmany
    obtain ⟨settings', horder, p, p', hp, hp', hne⟩ :=
      Settings.exists_reordered hnodup (Nat.not_le.1 hmany)
    rw [hsame settings' horder, hp] at hp'
    exact hne (congrArg Prod.fst (Option.some.inj hp')).symm
  · by_contra hmany
    obtain ⟨settings', horder, p, p', hp, hp', hne⟩ :=
      Settings.exists_reordered hnodup (Nat.not_le.1 hmany)
    have htarget := profileOf?_ofSettings hp' overrides userVariables lookup
    rw [hsame settings' horder, resolve_of_read hread,
      profileOf?_ofSettings hp overrides userVariables lookup] at htarget
    exact hne (Option.some.inj htarget).symm
  · rw [resolve_of_read hread, ofSettings, ofSettings, Settings.find?_of_perm horder hone]

/-- Settings in which two profiles have the other name `db`. -/
def sharedText : Text :=
  "[profiles.Main]\nhost = 'main'\ncompany = '101'\nsql_source = '/main'\naliases = ['db']\n" ++
    "[profiles.Spare]\nhost = 'spare'\ncompany = '101'\nsql_source = '/spare'\naliases = ['DB']\n"

/-- The profiles of these settings. -/
def sharedSettings : Settings where
  profiles := [
    ("Main", { host := "main", company := "101", source := "/main", aliases := ["db"] }),
    ("Spare", { host := "spare", company := "101", source := "/spare", aliases := ["DB"] })]

theorem resolve_reordered_shared :
    let tree : FileTree := { entries := [(["settings"], .file (Utf8.encode sharedText) 0)] }
    let file : SettingsFile := ⟨"/settings"⟩
    let target := fun name => resolve tree file (some name) {} (fun _ => none) fun _ => none
    file.read tree = .ok sharedSettings ∧
      (∀ settings : Settings, settings.profiles.Perm sharedSettings.profiles →
        ofSettings settings "MAIN" {} (fun _ => none) (fun _ => none) = target "MAIN") ∧
      ¬ ∀ settings : Settings, settings.profiles.Perm sharedSettings.profiles →
        ofSettings settings "db" {} (fun _ => none) (fun _ => none) = target "db" := by
  have hread : SettingsFile.read ⟨"/settings"⟩
      { entries := [(["settings"], .file (Utf8.encode sharedText) 0)] } = .ok sharedSettings := by
    decide +kernel
  refine ⟨hread, (resolve_reordered hread "MAIN" {} _ _).2.2.2 (by decide), fun hsame => ?_⟩
  exact absurd ((resolve_reordered hread "db" {} _ _).2.2.1 hsame) (by decide)

/-- In one order the shared name leads to the one server, in the other to the other. -/
theorem ofSettings_shared :
    let reversed : Settings := ⟨sharedSettings.profiles.reverse⟩
    let hostOf := fun settings : Settings =>
      (ofSettings settings "db" {} (fun _ => none) fun _ => none).value.toOption.map
        Environment.host
    Settings.ofText? sharedText = some sharedSettings ∧
      reversed.profiles.Perm sharedSettings.profiles ∧
      (sharedSettings.find? "db").map Prod.fst = some "Main".toList ∧
      (reversed.find? "db").map Prod.fst = some "Spare".toList ∧
      hostOf sharedSettings = some "main".toList ∧ hostOf reversed = some "spare".toList := by
  refine ⟨by decide +kernel, List.reverse_perm _, ?_⟩
  decide +kernel

end Target

end SqlBuild
