import SqlBuild.Proofs.Compilation
import SqlBuild.Proofs.OptionBuilds

/-!
# Cached dictionaries over a history

Sources are written and removed, and sets are built against one cache directory, which lies apart
from the sources; the clock goes on with every change. Whatever stands among the sources and is not
younger than an earlier build stood there when that build was made (`Made.Precedes`), and every file
in the cache directory holds what one of the builds compiled (`Made.Wrote`). A fresh artifact is
younger than every source, so one that is loaded holds what would be compiled now, as long as the
build that wrote it had the same settings and no source was removed since (`built_as_compiled`).
-/

namespace SqlBuild

/-- A file that was not written after `instant`; nothing is asked of what has no such instant. -/
def Node.WrittenBy (instant : Int) : Node → Prop
  | .file _ modified => modified ≤ instant
  | _ => True

namespace CacheHistory

/-- A build that was made: for which environment, from which sources, and when. -/
structure Made where
  env : Environment
  tree : FileTree
  now : Int

/-- The sources, the cache directory, the last instant of a change, and the builds so far. -/
structure World where
  tree : FileTree
  kept : FileTree
  clock : Int
  builds : List Made

/-- One change, later than those before it: a source is written, in place of an earlier one or as a
new one, or removed, or an option set is built. -/
inductive Step (directory : Text) : World → World → Prop
  | write {w : World} {name : Text} {content : Bytes} {now : Int} {tree : FileTree} :
      w.clock < now → w.tree.write name content now = .ok tree →
      Step directory w { w with tree, clock := now }
  | remove {w : World} {p : Path} {now : Int} {tree : FileTree} :
      w.clock < now → w.tree.at? p ≠ some .directory →
      (∀ q, tree.at? q = if q = p then none else w.tree.at? q) →
      tree.workingDirectory = w.tree.workingDirectory →
      Step directory w { w with tree, clock := now }
  | build {w : World} {now : Int} (force : Bool) (set : OptionSet) :
      w.clock < now →
      Step directory w
        { w with
          kept := (set.build (OptionStore.inDirectory directory) w.kept w.tree now force).value.kept
          clock := now
          builds := ⟨set.env, w.tree, now⟩ :: w.builds }

/-- The worlds that come about, from any sources and a cache directory without files. -/
inductive Reached (directory : Text) : World → Prop
  | start {tree kept : FileTree} {clock : Int} :
      (∀ p content modified, kept.at? p ≠ some (.file content modified)) →
      Reached directory ⟨tree, kept, clock, []⟩
  | step {w w' : World} : Reached directory w → Step directory w w' → Reached directory w'

namespace Made

/-- Directories stay, and what is not younger than the build stood among its sources. -/
structure Precedes (b : Made) (w : World) : Prop where
  earlier : b.now ≤ w.clock
  working : w.tree.workingDirectory = b.tree.workingDirectory
  directories : ∀ p, b.tree.at? p = some .directory → w.tree.at? p = some .directory
  stood : ∀ p node, w.tree.at? p = some node → node.WrittenBy b.now → b.tree.at? p = some node

/-- The file at `p`, written at `modified`, holds what the build compiled. -/
structure Wrote (b : Made) (p : Path) (content : Bytes) (modified : Int) : Prop where
  now : b.now = modified
  name : p.getLast? = some b.env.cacheKey.fileName
  compiled : ∃ d, (Dictionary.compile b.tree b.env).run.value = .ok d ∧
    content = Utf8.encode d.toRecords

theorem Precedes.step {b : Made} {directory : Text} {w w' : World} (h : b.Precedes w)
    (hstep : Step directory w w') : b.Precedes w' := by
  have hearlier := h.earlier
  cases hstep with
  | write hnow hwrite =>
    obtain ⟨hwork, p, -, hnot, hat⟩ := FileTree.at?_write hwrite
    refine ⟨by dsimp only; omega, hwork.trans h.working, fun q hq => ?_, fun q node hq hby => ?_⟩
    · have hdir := h.directories q hq
      rw [hat, if_neg fun heq => hnot (by rw [← heq, hdir])]
      exact hdir
    · rw [hat] at hq
      split at hq
      · obtain rfl := Option.some.inj hq
        have hle : _ ≤ b.now := hby
        omega
      · exact h.stood q node hq hby
  | remove hnow hnot hat hwork =>
    refine ⟨by dsimp only; omega, hwork.trans h.working, fun q hq => ?_, fun q node hq hby => ?_⟩
    · have hdir := h.directories q hq
      rw [hat, if_neg fun heq => hnot (by rw [← heq, hdir])]
      exact hdir
    · rw [hat] at hq
      split at hq
      · cases hq
      · exact h.stood q node hq hby
  | build force set hnow =>
    exact ⟨by dsimp only; omega, h.working, h.directories, h.stood⟩

end Made

/-- Every build precedes the world, and every file of the cache directory comes from one. -/
structure Sound (w : World) : Prop where
  precedes : ∀ b ∈ w.builds, b.Precedes w
  wrote : ∀ p content modified, w.kept.at? p = some (.file content modified) →
    ∃ b ∈ w.builds, b.Wrote p content modified

theorem Sound.step {directory : Text} {w w' : World} (h : Sound w) (hstep : Step directory w w') :
    Sound w' := by
  have hprecedes : ∀ b ∈ w.builds, b.Precedes w' := fun b hb => (h.precedes b hb).step hstep
  cases hstep with
  | write => exact ⟨hprecedes, h.wrote⟩
  | remove => exact ⟨hprecedes, h.wrote⟩
  | @build now force set hnow =>
    have hold : ∀ p content modified, w.kept.at? p = some (.file content modified) →
        ∃ b ∈ (⟨set.env, w.tree, now⟩ :: w.builds : List Made), b.Wrote p content modified := by
      intro p content modified hp
      obtain ⟨b, hb, hwrote⟩ := h.wrote p content modified hp
      exact ⟨b, List.mem_cons_of_mem _ hb, hwrote⟩
    constructor
    · intro b hb
      rcases List.mem_cons.1 hb with rfl | hb
      · exact ⟨Int.le_refl _, rfl, fun _ => id, fun _ _ hp _ => hp⟩
      · exact hprecedes b hb
    · dsimp only
      rcases OptionSet.build_cases (OptionStore.inDirectory directory) w.kept w.tree now force set
        with ⟨result, hr, -⟩ | ⟨artifact, d, -, hr⟩ | ⟨d, kept', hd, hr, hkept⟩
      · rw [hr]
        exact hold
      · rw [hr]
        exact hold
      · rw [hr]
        rcases hkept with rfl | hsave
        · exact hold
        · intro p content modified hp
          have hfile : Node.file content modified ≠ .directory := by simp
          rcases OptionStore.save_inDirectory hsave hfile hp with ⟨hname, hnode⟩ | hp
          · obtain ⟨rfl, rfl⟩ := Node.file.inj hnode
            exact ⟨_, List.mem_cons_self, rfl, hname, d, hd, rfl⟩
          · exact hold p content modified hp

theorem sound_of_reached {directory : Text} {w : World} (h : Reached directory w) : Sound w := by
  induction h with
  | start hempty => exact ⟨by simp, fun p content modified hp => absurd hp (hempty p content modified)⟩
  | step _ hstep ih => exact ih.step hstep

namespace Made

variable {b : Made} {w : World}

theorem Precedes.find (h : b.Precedes w) {name : Text} {node : Node}
    (hn : w.tree.find name = .ok node) (hby : node.WrittenBy b.now) :
    b.tree.find name = .ok node := by
  obtain ⟨p, hp, hnode⟩ := FileTree.find_eq_ok_iff.1 hn
  have hdir : ∀ p, w.tree.at? p = some .directory ↔ b.tree.at? p = some .directory :=
    fun p => ⟨fun hd => h.stood p .directory hd trivial, h.directories p⟩
  exact FileTree.find_eq_ok_iff.2
    ⟨p, (FileTree.locate_congr hdir h.working.symm).1 hp, h.stood p node hnode hby⟩

/-- Nothing that the artifact of the build depends on has changed, as far as its key and the instants
of the sources do not tell. -/
structure Holds (b : Made) (env : Environment) (tree : FileTree) : Prop where
  company : b.env.company = env.company
  name : b.env.name = env.name
  language : b.env.language = env.language
  root : b.env.root = env.root
  present : ∀ source ∈ env.optionSources,
    b.tree.isFile source = true → tree.isFile source = true

end Made

theorem writtenBy_of_fresh {artifact : Artifact} {maxAge : Nat} {now : Int} {tree : FileTree}
    {names : List Text} (h : artifact.isFresh maxAge now (names.map tree.modified?) = true)
    {name : Text} (hname : name ∈ names) {node : Node} (hn : tree.find name = .ok node) :
    node.WrittenBy artifact.written := by
  cases node with
  | directory => trivial
  | failing => trivial
  | file content modified =>
    refine Artifact.written_of_fresh h (List.mem_map.2 ⟨name, hname, ?_⟩)
    rw [FileTree.modified?, hn]

theorem sameFiles_of_holds {b : Made} {w : World} (h : b.Precedes w) {env : Environment}
    (hholds : b.Holds env w.tree)
    (hold : ∀ name ∈ env.optionSources, ∀ node, w.tree.find name = .ok node →
      node.WrittenBy b.now) :
    Dictionary.SameFiles b.tree w.tree env.optionSources := by
  intro name hname
  have hfind : ∀ node, w.tree.find name = .ok node → b.tree.find name = .ok node :=
    fun node hn => h.find hn (hold name hname node hn)
  constructor
  · rw [Bool.eq_iff_iff]
    constructor
    · exact hholds.present name hname
    · intro hfile
      obtain ⟨node, hn, hnode⟩ := FileTree.isFile_iff.1 hfile
      exact FileTree.isFile_iff.2 ⟨node, hfind node hn, hnode⟩
  · intro hfile
    obtain ⟨node, hn, -⟩ := FileTree.isFile_iff.1 hfile
    unfold FileTree.readText FileTree.read
    rw [hn, hfind node hn]

/-- What has to be said of an artifact that is loaded: the build that wrote it had the settings of
the set, and these have no line feeds, which would end a record. -/
structure Valid (w : World) (env : Environment) (artifact : Artifact) : Prop where
  holds : ∀ b ∈ w.builds, b.now = artifact.written → b.Holds env w.tree
  company : '\n' ∉ env.company
  language : '\n' ∉ env.language

/-- A dictionary that is loaded is what the sources give now, but for the white space at the end of
values. -/
theorem compile_of_loaded {directory : Text} {w : World} (hw : Reached directory w) {now : Int}
    {set : OptionSet} {artifact : Artifact} {d : Dictionary}
    (h : OptionSet.Loaded (OptionStore.inDirectory directory) w.kept w.tree now set artifact d)
    (hvalid : Valid w set.env artifact) :
    ∃ d', (Dictionary.compile w.tree set.env).run.value = .ok d' ∧ d = d'.trimmed := by
  obtain ⟨p, content, hname, hfile, htext⟩ := OptionStore.load_inDirectory h.load
  obtain ⟨b, hb, hwrote⟩ := (sound_of_reached hw).wrote p content artifact.written hfile
  have hprecedes := (sound_of_reached hw).precedes b hb
  have hb := hvalid.holds b hb hwrote.now
  obtain ⟨d', hd', rfl⟩ := hwrote.compiled
  have hkey : b.env.cacheKey.fileName = set.env.cacheKey.fileName :=
    Option.some.inj (hwrote.name.symm.trans hname)
  have hplatform : b.env.platform = set.env.platform := CacheKey.platform_of_fileName hkey
  have htable : w.tree.isFile set.env.tableLocationsFile = true := by
    have hcomplete := h.complete
    unfold OptionSet.missing? at hcomplete
    split at hcomplete
    · cases hcomplete
    · split at hcomplete
      · cases hcomplete
      · simpa using ‹¬ (!w.tree.isFile set.env.tableLocationsFile) = true›
  have hsame : Dictionary.SameFiles b.tree w.tree set.env.optionSources := by
    refine sameFiles_of_holds hprecedes hb fun name hmem node hn => ?_
    rw [hwrote.now]
    exact writtenBy_of_fresh h.fresh hmem hn
  rw [Dictionary.compile_congr ⟨hplatform, hb.company, hb.name, hb.language, hb.root⟩ hsame
    htable] at hd'
  refine ⟨d', hd', ?_⟩
  rw [Utf8.decode_encode] at htext
  have hread := h.read
  have hrecordable := Dictionary.recordable_of_compile hvalid.company hvalid.language hd'
  rw [← Option.some.inj htext, Dictionary.ofRecords_toRecords hrecordable] at hread
  exact (Except.ok.inj hread).symm

/-- What comes out when a new set is built at `now`. -/
def newBuild (directory : Text) (w : World) (env : Environment) (maxAge : Nat) (now : Int) :
    OptionSet.BuildResult FileTree :=
  (OptionSet.build (OptionStore.inDirectory directory) w.kept w.tree now false { env, maxAge }).value

/-- A new set that is built has the dictionary that the sources and the settings give at that
moment, or that dictionary without the white space at the end of its values. Something has to be
said of an artifact only if the set is built from it. -/
theorem built_as_compiled {directory : Text} {w : World} (hw : Reached directory w)
    {env : Environment} {maxAge : Nat} {now : Int}
    (hok : (newBuild directory w env maxAge now).result = .ok ())
    (hvalid : ∀ artifact d, OptionSet.Loaded (OptionStore.inDirectory directory) w.kept w.tree now
      { env, maxAge } artifact d → Valid w env artifact) :
    ∃ d, (Dictionary.compile w.tree env).run.value = .ok d ∧
      ((newBuild directory w env maxAge now).set.dictionary = some d ∨
        (newBuild directory w env maxAge now).set.dictionary = some d.trimmed) ∧
      ((∀ e ∈ d.entries, Text.trimEnd e.2 = e.2) →
        ∀ t, (newBuild directory w env maxAge now).set.resolveWord t = d.resolve t) := by
  unfold newBuild at hok ⊢
  rcases OptionSet.build_cases (OptionStore.inDirectory directory) w.kept w.tree now false
    { env, maxAge } with ⟨result, hr, hset⟩ | ⟨artifact, d, hloaded, hr⟩ | ⟨d, kept', hd, hr, -⟩
  · rw [hr] at hok
    exact absurd (hset hok) (by simp [OptionSet.isBuilt])
  · rw [hr]
    obtain ⟨d', hd', rfl⟩ := compile_of_loaded hw hloaded (hvalid artifact d hloaded)
    refine ⟨d', hd', .inr rfl, fun htrim t => ?_⟩
    rw [Dictionary.trimmed_eq htrim]
    rfl
  · rw [hr]
    exact ⟨d, hd, .inl rfl, fun _ t => rfl⟩

def sample : Environment :=
  { name := "dev", host := "dbhost", port := none, user := "sa", password := "secret",
    platform := .sybase, company := "acme", language := "1", root := "/sql", rawMode := false,
    named := true }

def inSetup (root file : Text) : Path := [root, "CSS", "Setup", file]

/-- A text that goes over its line and on as a record. -/
def overLine (t : Text) : Text := t ++ "\n&x&"

/-- Two roots, with the files of two companies in the first. -/
def sources : FileTree where
  entries :=
    [(inSetup "sql" "options.def", .file (Utf8.encode "v: kind <<plain>>\n") 0),
      (inSetup "sql" "options.acme", .file (Utf8.encode "v: pad <<x >>\n") 0),
      (inSetup "sql" ("options." ++ overLine "acme"), .file [] 0),
      (inSetup "sql" "table_locations", .file [] 0),
      (inSetup "old" "options.acme", .file [] 0),
      (inSetup "old" "table_locations", .file [] 0)]

/-- The world after one build for an environment. -/
def builtFor (env : Environment) : World where
  tree := sources
  kept := (newBuild "/cache" ⟨sources, {}, 0, []⟩ env 3600 1).kept
  clock := 1
  builds := [⟨env, sources, 1⟩]

theorem reached_builtFor (env : Environment) : Reached "/cache" (builtFor env) := by
  have hstart : Reached "/cache" ⟨sources, {}, 0, []⟩ := by
    refine .start fun p content modified h => ?_
    rw [FileTree.at?_eq_some_iff (by simp)] at h
    cases h
  exact hstart.step (.build false { env, maxAge := 3600 } (by decide))

theorem eq_ok_iff {ε : Type} {x : Except ε Unit} : x = .ok () ↔ x.toBool = true := by
  cases x with
  | error e => simp [Except.toBool]
  | ok u => simp [Except.toBool]

theorem built_as_compiled_again :
    ∃ d, (Dictionary.compile (builtFor sample).tree sample).run.value = .ok d ∧
      ((newBuild "/cache" (builtFor sample) sample 3600 2).set.dictionary = some d ∨
        (newBuild "/cache" (builtFor sample) sample 3600 2).set.dictionary = some d.trimmed) ∧
      ((∀ e ∈ d.entries, Text.trimEnd e.2 = e.2) → ∀ t,
        (newBuild "/cache" (builtFor sample) sample 3600 2).set.resolveWord t = d.resolve t) := by
  have hholds : ∀ b ∈ (builtFor sample).builds, b.Holds sample (builtFor sample).tree := by
    intro b hb
    obtain rfl := List.mem_singleton.1 hb
    exact ⟨rfl, rfl, rfl, rfl, fun _ _ => id⟩
  exact built_as_compiled (reached_builtFor sample) (eq_ok_iff.2 (by decide +kernel))
    fun _ _ _ => ⟨fun b hb _ => hholds b hb, by decide, by decide⟩

/-- A new set resolves `t` otherwise than what the sources and the settings give. -/
def Differs (w : World) (env : Environment) (now : Int) (t : Text) : Prop :=
  (newBuild "/cache" w env 3600 now).result = .ok () ∧
    ∃ d, (Dictionary.compile w.tree env).run.value = .ok d ∧
      (newBuild "/cache" w env 3600 now).set.resolveWord t ≠ d.resolve t

theorem differs_iff {w : World} {env : Environment} {now : Int} {t : Text} :
    Differs w env now t ↔ (newBuild "/cache" w env 3600 now).result.toBool = true ∧
      ((Dictionary.compile w.tree env).run.value.toOption.any
        fun d => (newBuild "/cache" w env 3600 now).set.resolveWord t != d.resolve t) = true := by
  refine and_congr eq_ok_iff ?_
  cases (Dictionary.compile w.tree env).run.value with
  | error e => simp [Except.toOption]
  | ok d => simp [Except.toOption]

instance (w : World) (env : Environment) (now : Int) (t : Text) : Decidable (Differs w env now t) :=
  decidable_of_iff _ differs_iff.symm

def twoLineCompany : Environment := { sample with company := overLine "acme" }

def twoLineLanguage : Environment := { sample with language := overLine "1" }

/-- The default file is removed after the build. -/
def removed : World :=
  { builtFor sample with tree := sources.erase (inSetup "sql" "options.def"), clock := 2 }

theorem reached_removed : Reached "/cache" removed :=
  (reached_builtFor sample).step
    (.remove (by decide) (by decide +kernel)
      (FileTree.at?_erase (by decide +kernel) (by decide +kernel) (by decide +kernel)) rfl)

/-- What the key does not tell apart is not told apart when an artifact is loaded: a language, a
root, a file that was removed. Line feeds in the settings and white space at the end of a value do
not come back from it. -/
theorem conditions_needed :
    (Reached "/cache" (builtFor sample) ∧ Reached "/cache" removed ∧
      Reached "/cache" (builtFor twoLineCompany) ∧ Reached "/cache" (builtFor twoLineLanguage)) ∧
    Differs (builtFor sample) { sample with language := "2" } 2 "&lang&" ∧
    Differs (builtFor sample) { sample with root := "/old" } 2 "&kind&" ∧
    Differs removed sample 3 "&kind&" ∧
    Differs (builtFor twoLineCompany) twoLineCompany 2 "&cmpy&" ∧
    Differs (builtFor twoLineLanguage) twoLineLanguage 2 "&lang&" ∧
    Differs (builtFor sample) sample 2 "[&pad&]" := by
  refine ⟨⟨reached_builtFor sample, reached_removed, reached_builtFor twoLineCompany,
    reached_builtFor twoLineLanguage⟩, ?_⟩
  decide +kernel

end CacheHistory

end SqlBuild
