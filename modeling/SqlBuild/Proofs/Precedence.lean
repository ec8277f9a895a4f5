import SqlBuild.Proofs.Compilation
import SqlBuild.Proofs.Locality

/-!
# The last assignment counts

The option sources of an environment, read in their order, are one sequence of assignments
(`Sources.assignments`). A dictionary agrees with a sequence when it gives every name the value that
was assigned to it last. Each step of compiling appends its assignments to the sequence agreed with,
so the dictionary compiled agrees with the whole of it (`compile_agrees`).
-/

namespace SqlBuild

/-- A name, and the value it is given. -/
abbrev Assignment := Text × Text

def lastValue (assignments : List Assignment) (name : Text) : Option Text :=
  assignments.reverse.lookup name

theorem lastValue_append (before after : List Assignment) (name : Text) :
    lastValue (before ++ after) name = (lastValue after name).or (lastValue before name) := by
  rw [lastValue, List.reverse_append, List.lookup_append]
  rfl

/-- A text that is named again keeps its place among those named. -/
theorem eraseDups_append_singleton (l : List Text) (x : Text) :
    (l ++ [x]).eraseDups = if x ∈ l then l.eraseDups else l.eraseDups ++ [x] := by
  rw [List.eraseDups_append, List.removeAll, List.filter_singleton]
  by_cases hx : x ∈ l <;> simp [hx, List.eraseDups_cons]

namespace Assignment

/-- The assignments to names that fit a record; no others are made. -/
def recorded (assignments : List Assignment) : List Assignment :=
  assignments.filter fun a => Dictionary.fits a.1

theorem recorded_singleton (name value : Text) :
    recorded [(name, value)] = if Dictionary.fits name then [(name, value)] else [] :=
  List.filter_singleton.trans (Bool.cond_eq_ite _ _ _)

/-- The four assignments of a conditional, made together. -/
def ofConditional (name : Text) (enabled : Bool) : List Assignment :=
  if Dictionary.fits (Dictionary.widest name) then
    [("&if_" ++ name ++ "&", if enabled then [] else Dictionary.commentOpen),
      ("&endif_" ++ name ++ "&", if enabled then [] else Dictionary.commentClose),
      ("&ifn_" ++ name ++ "&", if enabled then Dictionary.commentOpen else []),
      ("&endifn_" ++ name ++ "&", if enabled then Dictionary.commentClose else [])]
  else []

/-- The assignments of a directive in an option file. -/
def ofDirective : Directive → List Assignment
  | .value name content _ false => recorded [(placeholder name, content)]
  | .conditional name enabled _ false => ofConditional name enabled
  | _ => []

/-- The assignments of a table mapping, its database resolved through those before it. -/
def ofMapping (before : List Assignment) : Directive → List Assignment
  | .table table database _ =>
    let resolved := Dictionary.resolve ⟨before.reverse⟩ database
    recorded [(placeholder table, resolved ++ ".." ++ table), ("&db-" ++ table ++ "&", resolved)]
  | _ => []

def ofMappings (before : List Assignment) : List Directive → List Assignment
  | [] => []
  | directive :: rest =>
    ofMapping before directive ++ ofMappings (before ++ ofMapping before directive) rest

def ofPlatform (platform : Platform) : List Assignment :=
  ofConditional "mssql" (platform = .mssql) ++ ofConditional "sybase" (platform = .sybase)

def ofSettings (env : Environment) : List Assignment :=
  [("&cmpy&", env.company), ("&lang&", env.language)]

end Assignment

namespace Directive

/-- The directive on a line; a comment and a malformed line have none. -/
def onLine? (line : Text) : Option Directive :=
  match ofLine? line with
  | .ok found => found
  | .error _ => none

def ofContent (content : Text) : List Directive := (Text.lines content).filterMap onLine?

end Directive

/-- What the option sources contain; the file of a tier may be missing. -/
structure Sources where
  tier : Tier → Option Text
  tables : Text

namespace Sources

def ofTier (sources : Sources) (tier : Tier) : List Assignment :=
  (Directive.ofContent ((sources.tier tier).getD [])).flatMap Assignment.ofDirective

/-- The assignments before the table mappings. -/
def beforeTables (sources : Sources) (env : Environment) : List Assignment :=
  Assignment.ofPlatform env.platform ++ sources.ofTier .default ++ sources.ofTier .company ++
    sources.ofTier .profile ++ Assignment.ofSettings env

def ofTables (sources : Sources) (env : Environment) : List Assignment :=
  Assignment.ofMappings (sources.beforeTables env) (Directive.ofContent sources.tables)

/-- All assignments, in their order. -/
def assignments (sources : Sources) (env : Environment) : List Assignment :=
  sources.beforeTables env ++ sources.ofTables env

/-- The file of a tier can be read and has this content, or is missing. -/
def IsTier (tree : FileTree) (env : Environment) (tier : Tier) : Option Text → Prop
  | some content => tree.isFile (env.tierFile tier) = true ∧
      tree.readText (env.tierFile tier) = .ok content
  | none => tree.isFile (env.tierFile tier) = false

/-- The files of a tree have these contents. -/
structure IsIn (sources : Sources) (tree : FileTree) (env : Environment) : Prop where
  tier : ∀ tier, IsTier tree env tier (sources.tier tier)
  tables : tree.readText env.tableLocationsFile = .ok sources.tables

end Sources

namespace Dictionary

def Agrees (d : Dictionary) (assignments : List Assignment) : Prop :=
  ∀ name, d.get? name = lastValue assignments name

section

variable {d d' : Dictionary} {made : List Assignment}

theorem lookup_entry (m v n : Text) (rest : List (Text × Text)) :
    ((m, v) :: rest).lookup n = if n = m then some v else rest.lookup n := by
  rw [List.lookup_cons]
  by_cases h : n = m
  · rw [if_pos h, beq_iff_eq.2 h]
  · rw [if_neg h, beq_eq_false_iff_ne.2 h]

theorem lookup_assign (name value n : Text) : ∀ entries : List (Text × Text),
    (assign name value entries).lookup n = if n = name then some value else entries.lookup n
  | [] => lookup_entry name value n []
  | (m, v) :: rest => by
    rw [assign]
    by_cases hm : m = name
    · rw [if_pos hm, lookup_entry, lookup_entry, hm]
      by_cases hn : n = name
      · rw [if_pos hn, if_pos hn]
      · rw [if_neg hn, if_neg hn, if_neg hn]
    · rw [if_neg hm, lookup_entry, lookup_entry, lookup_assign name value n rest]
      by_cases hn : n = name
      · have hnm : n ≠ m := fun heq => hm (heq ▸ hn)
        rw [if_neg hnm, if_pos hn, if_pos hn]
      · rw [if_neg hn, if_neg hn]

theorem Agrees.insert_fitting (h : d.Agrees made) {name : Text} (hfits : fits name = true)
    (value : Text) : (d.insert name value).Agrees (made ++ [(name, value)]) := by
  intro n
  have hlast : lastValue [(name, value)] n = if n = name then some value else none :=
    lookup_entry name value n []
  rw [lastValue_append, hlast, Dictionary.insert, if_pos hfits, get?, lookup_assign]
  by_cases hn : n = name
  · rw [if_pos hn, if_pos hn, Option.some_or]
  · rw [if_neg hn, if_neg hn, Option.none_or]
    exact h n

theorem Agrees.insert (h : d.Agrees made) (name value : Text) :
    (d.insert name value).Agrees (made ++ Assignment.recorded [(name, value)]) := by
  rw [Assignment.recorded_singleton]
  by_cases hfits : fits name = true
  · rw [if_pos hfits]
    exact h.insert_fitting hfits value
  · rw [if_neg hfits, List.append_nil, Dictionary.insert, if_neg hfits]
    exact h

/-- The other names of a conditional are no longer than the one that is asked to fit. -/
theorem fits_of_widest {name opening : Text} (h : fits (widest name) = true)
    (hopening : Text.byteLength opening ≤ Text.byteLength ("&endifn_" : Text)) :
    fits (opening ++ name ++ "&") = true := by
  unfold fits widest at *
  simp only [byteLength_append, decide_eq_true_eq] at h ⊢
  omega

theorem Agrees.insertConditional (h : d.Agrees made) (name : Text) (enabled : Bool) :
    (d.insertConditional name enabled).Agrees (made ++ Assignment.ofConditional name enabled) := by
  unfold Dictionary.insertConditional Assignment.ofConditional
  split
  · rename_i hfits
    -- All four names fit, so each insertion records its value.
    have hshort : ∀ opening : Text, Text.byteLength opening ≤ Text.byteLength ("&endifn_" : Text) →
        fits (opening ++ name ++ "&") = true := fun opening => fits_of_widest hfits
    have hif := h.insert_fitting (hshort "&if_" (by decide))
      (if enabled then [] else commentOpen)
    have hendif := hif.insert_fitting (hshort "&endif_" (by decide))
      (if enabled then [] else commentClose)
    have hifn := hendif.insert_fitting (hshort "&ifn_" (by decide))
      (if !enabled then [] else commentOpen)
    have hendifn := hifn.insert_fitting (hshort "&endifn_" (by decide))
      (if !enabled then [] else commentClose)
    cases enabled
    · simpa using hendifn
    · simpa using hendifn
  · rw [List.append_nil]
    exact h

theorem Agrees.merge (h : d.Agrees made) (directive : Directive) :
    (d.merge directive).Agrees (made ++ Assignment.ofDirective directive) := by
  unfold Dictionary.merge
  split
  · exact h.insert _ _
  · exact h.insertConditional _ _
  · rename_i hvalue hconditional
    rw [Assignment.ofDirective, List.append_nil]
    · exact h
    · exact hvalue
    · exact hconditional

theorem Agrees.foldl_merge : ∀ {directives : List Directive} {d : Dictionary}
    {made : List Assignment}, d.Agrees made →
      (directives.foldl Dictionary.merge d).Agrees
        (made ++ directives.flatMap Assignment.ofDirective)
  | [], d, made, h => by
    rw [List.flatMap_nil, List.append_nil]
    exact h
  | directive :: directives, d, made, h => by
    rw [List.foldl_cons, List.flatMap_cons, ← List.append_assoc]
    exact (h.merge directive).foldl_merge

/-- Resolving looks at values and not at the order they stand in. -/
theorem resolveWithin_congr (h : ∀ name, d.get? name = d'.get? name) (n : Nat) (t : Text) :
    d.resolveWithin n t = d'.resolveWithin n t := by
  rw [resolveWithin_eq_iterate, resolveWithin_eq_iterate]
  exact iterate_congr_asked n fun name _ => h name

theorem Agrees.resolve_eq (h : d.Agrees made) (t : Text) :
    d.resolve t = Dictionary.resolve ⟨made.reverse⟩ t :=
  resolveWithin_congr h maxPasses t

theorem Agrees.mapTable (h : d.Agrees made) (line : Nat) (table database description : Text) :
    (d.mapTable line table database).value.Agrees
      (made ++ Assignment.ofMapping made (.table table database description)) := by
  have hinsert := (h.insert (placeholder table) (d.resolve database ++ ".." ++ table)).insert
    (databasePlaceholder table) (d.resolve database)
  have hmade : ∀ a b : Assignment, Assignment.recorded [a, b] =
      Assignment.recorded [a] ++ Assignment.recorded [b] := fun a b => List.filter_append [a] [b]
  -- The database is resolved before either name of the table is recorded.
  rw [Assignment.ofMapping, ← h.resolve_eq database, hmade, ← List.append_assoc]
  exact hinsert

theorem Agrees.mergeMapping (h : d.Agrees made) (source : SourceDirective) :
    (d.mergeMapping source).value.Agrees (made ++ Assignment.ofMapping made source.directive) := by
  unfold Dictionary.mergeMapping
  split
  · rename_i table database description heq
    rw [heq]
    exact h.mapTable source.line table database description
  · rename_i hother
    rw [Assignment.ofMapping, List.append_nil]
    · exact h
    · exact hother

theorem Agrees.foldlM_mergeMapping : ∀ (mappings : List SourceDirective) {d : Dictionary}
    {made : List Assignment}, d.Agrees made →
      (mappings.foldlM Dictionary.mergeMapping d).value.Agrees
        (made ++ Assignment.ofMappings made (mappings.map (·.directive)))
  | [], d, made, h => by
    rw [List.map_nil, Assignment.ofMappings, List.append_nil]
    exact h
  | mapping :: mappings, d, made, h => by
    rw [List.foldlM_cons, Noted.value_bind, List.map_cons, Assignment.ofMappings,
      ← List.append_assoc]
    exact (h.mergeMapping mapping).foldlM_mergeMapping mappings

theorem agrees_ofPlatform (platform : Platform) :
    (ofPlatform platform).Agrees (Assignment.ofPlatform platform) := by
  have hempty : Agrees {} [] := fun _ => rfl
  exact (hempty.insertConditional _ _).insertConditional _ _

theorem Agrees.mergeEnvironment (h : d.Agrees made) (env : Environment) :
    (mergeEnvironment env d).Agrees (made ++ Assignment.ofSettings env) := by
  have hcmpy := h.insert_fitting (by decide : fits "&cmpy&" = true) env.company
  have hlang := hcmpy.insert_fitting (by decide : fits "&lang&" = true) env.language
  rwa [List.append_assoc] at hlang

end

end Dictionary

namespace SourceDirective

theorem directives_ofLines (path : Text) : ∀ (ls : List Text) (number : Nat),
    (ofLines path number ls).value.map (·.directive) = ls.filterMap Directive.onLine?
  | [], _ => rfl
  | line :: ls, number => by
    have ih := directives_ofLines path ls (number + 1)
    rw [ofLines, List.filterMap_cons, Directive.onLine?]
    cases Directive.ofLine? line with
    | error reason => exact ih
    | ok found =>
      cases found with
      | none => exact ih
      | some directive => exact congrArg (directive :: ·) ih

variable {tree : FileTree} {path content : Text}

theorem ofFile_of_readText (h : tree.readText path = .ok content) :
    ∃ sources, (ofFile tree path).run.value = .ok sources ∧
      sources.map (·.directive) = Directive.ofContent content := by
  unfold ofFile
  rw [h]
  exact ⟨_, rfl, directives_ofLines path (Text.lines content) 1⟩

theorem readText_of_ofFile {sources : List SourceDirective}
    (h : (ofFile tree path).run.value = .ok sources) :
    ∃ content, tree.readText path = .ok content := by
  unfold ofFile at h
  split at h
  · cases h
  · exact ⟨_, ‹_›⟩

end SourceDirective

namespace Dictionary

open Sources

variable {tree : FileTree} {env : Environment} {d d' : Dictionary} {made : List Assignment}

theorem Agrees.mergeTier (h : d.Agrees made) {sources : Sources} (hin : sources.IsIn tree env)
    (tier : Tier) : ∃ d', (mergeTier tree env d tier).run.value = .ok d' ∧
      d'.Agrees (made ++ sources.ofTier tier) := by
  have htier := hin.tier tier
  unfold Dictionary.mergeTier
  cases hcontent : sources.tier tier with
  | none =>
    rw [hcontent] at htier
    have hmissing : ¬ tree.isFile (env.tierFile tier) = true := by rw [htier]; simp
    refine ⟨d, by rw [if_neg hmissing]; rfl, ?_⟩
    have hnone : Directive.ofContent [] = [] := by decide
    rw [ofTier, hcontent, Option.getD_none, hnone, List.flatMap_nil, List.append_nil]
    exact h
  | some content =>
    rw [hcontent] at htier
    obtain ⟨hfile, htext⟩ := htier
    obtain ⟨directives, hread, hcontents⟩ := SourceDirective.ofFile_of_readText htext
    refine ⟨(directives.map (·.directive)).foldl Dictionary.merge d, ?_, ?_⟩
    · rw [if_pos hfile]
      exact Reading.bind_value.2 ⟨directives, hread, rfl⟩
    · rw [ofTier, hcontent, hcontents]
      exact h.foldl_merge

theorem Agrees.foldlM_mergeTier {sources : Sources} (hin : sources.IsIn tree env) :
    ∀ (tiers : List Tier) {d : Dictionary} {made : List Assignment}, d.Agrees made →
      ∃ d', (tiers.foldlM (Dictionary.mergeTier tree env) d).run.value = .ok d' ∧
        d'.Agrees (made ++ tiers.flatMap sources.ofTier)
  | [], d, made, h => ⟨d, rfl, by rwa [List.flatMap_nil, List.append_nil]⟩
  | tier :: tiers, d, made, h => by
    obtain ⟨next, hnext, hagrees⟩ := h.mergeTier hin tier
    obtain ⟨d', hd', hagrees'⟩ := hagrees.foldlM_mergeTier hin tiers
    refine ⟨d', ?_, by rwa [List.flatMap_cons, ← List.append_assoc]⟩
    rw [List.foldlM_cons]
    exact Reading.bind_value.2 ⟨next, hnext, hd'⟩

theorem exists_compile {sources : Sources} (hin : sources.IsIn tree env) :
    ∃ d, (compile tree env).run.value = .ok d ∧ d.Agrees (sources.assignments env) := by
  obtain ⟨options, hoptions, htiers⟩ :=
    (agrees_ofPlatform env.platform).foldlM_mergeTier hin Tier.all
  obtain ⟨mappings, hmappings, hcontents⟩ := SourceDirective.ofFile_of_readText hin.tables
  have hbefore : Assignment.ofPlatform env.platform ++ Tier.all.flatMap sources.ofTier ++
      Assignment.ofSettings env = sources.beforeTables env := by
    simp [Tier.all, beforeTables]
  have henv := htiers.mergeEnvironment env
  rw [hbefore] at henv
  refine ⟨_, Reading.bind_value.2 ⟨options, hoptions,
    Reading.bind_value.2 ⟨mappings, hmappings, rfl⟩⟩, ?_⟩
  have hall := henv.foldlM_mergeMapping mappings
  rwa [hcontents] at hall

theorem isTier_of_mergeTier {tier : Tier} (h : (mergeTier tree env d tier).run.value = .ok d') :
    ∃ content, IsTier tree env tier content := by
  unfold mergeTier at h
  dsimp only at h
  split at h
  · rename_i hfile
    obtain ⟨sources, hsources, -⟩ := Reading.bind_value.1 h
    obtain ⟨content, htext⟩ := SourceDirective.readText_of_ofFile hsources
    exact ⟨some content, hfile, htext⟩
  · rename_i hmissing
    exact ⟨none, by simpa [IsTier] using hmissing⟩

theorem isTier_of_foldlM : ∀ {tiers : List Tier} {d d' : Dictionary},
    (tiers.foldlM (mergeTier tree env) d).run.value = .ok d' →
      ∀ tier ∈ tiers, ∃ content, IsTier tree env tier content
  | [], _, _, _, _, hmem => absurd hmem List.not_mem_nil
  | first :: tiers, d, d', h, tier, hmem => by
    rw [List.foldlM_cons] at h
    obtain ⟨next, hfirst, hrest⟩ := Reading.bind_value.1 h
    rcases List.mem_cons.1 hmem with rfl | hmem
    · exact isTier_of_mergeTier hfirst
    · exact isTier_of_foldlM hrest tier hmem

/-- Whatever compiles has sources that can be read. -/
theorem exists_sources (h : (compile tree env).run.value = .ok d) :
    ∃ sources : Sources, sources.IsIn tree env := by
  obtain ⟨options, hoptions, h⟩ := Reading.bind_value.1 h
  obtain ⟨mappings, hmappings, -⟩ := Reading.bind_value.1 h
  obtain ⟨tables, htables⟩ := SourceDirective.readText_of_ofFile hmappings
  have htiers : ∀ tier, ∃ content, IsTier tree env tier content := by
    intro tier
    exact isTier_of_foldlM hoptions tier (by cases tier <;> decide)
  obtain ⟨content, hcontent⟩ := Classical.skolem.1 htiers
  exact ⟨⟨content, tables⟩, hcontent, htables⟩

/-- A dictionary is compiled exactly when the sources can be read, and gives each name the value
assigned to it last: a table mapping counts before the settings, these before the profile file, that
before the company's, that before the default, and that before the platform. -/
theorem compile_agrees (tree : FileTree) (env : Environment) :
    ((∃ d, (compile tree env).run.value = .ok d) ↔ ∃ sources : Sources, sources.IsIn tree env) ∧
      ∀ (sources : Sources) (d : Dictionary), sources.IsIn tree env →
        (compile tree env).run.value = .ok d → ∀ name,
          d.get? name = lastValue (sources.assignments env) name ∧
          d.get? name = (lastValue (sources.ofTables env) name).or
            ((lastValue (Assignment.ofSettings env) name).or
              ((lastValue (sources.ofTier .profile) name).or
                ((lastValue (sources.ofTier .company) name).or
                  ((lastValue (sources.ofTier .default) name).or
                    (lastValue (Assignment.ofPlatform env.platform) name))))) := by
  refine ⟨⟨?_, ?_⟩, ?_⟩
  · rintro ⟨d, hd⟩
    exact exists_sources hd
  · rintro ⟨sources, hin⟩
    obtain ⟨d, hd, -⟩ := exists_compile hin
    exact ⟨d, hd⟩
  · intro sources d hin hd name
    obtain ⟨d', hd', hagrees⟩ := exists_compile hin
    obtain rfl := Except.ok.inj (hd.symm.trans hd')
    have hlast := hagrees name
    refine ⟨hlast, ?_⟩
    rw [hlast, assignments, beforeTables]
    simp only [lastValue_append]

/-- A profile of a company, with a file in every tier. -/
def acmeDev : Environment :=
  { name := "dev", host := "dbhost", port := none, user := "sa", password := "secret",
    platform := .mssql, company := "acme", language := "1", root := "/sql", rawMode := false,
    named := true }

def acmeSources : Sources where
  tier
    | .default => some "v: dbtbl <<main>>\nv: kind <<plain>>\nc: feat +\n"
    | .company => some "v: dbtbl <<sbnmaster>>\nv: lang <<3>>\nv: broken\n"
    | .profile => some "v: &dbtbl& <<sbntest>>\nV: kind <<server>>\nc: feat -\n"
  tables := "-> users &dbtbl& user accounts\n"

def acmeTree : FileTree where
  entries :=
    let file (name content : Text) : Path × Node :=
      (["sql", "CSS", "Setup", name], .file (Utf8.encode content) 0)
    [file "options.def" ((acmeSources.tier .default).getD []),
      file "options.acme" ((acmeSources.tier .company).getD []),
      file "options.acme.dev" ((acmeSources.tier .profile).getD []),
      file "table_locations" acmeSources.tables]

theorem acmeSources_isIn : acmeSources.IsIn acmeTree acmeDev where
  tier tier := by cases tier <;> exact ⟨by decide +kernel, by decide +kernel⟩
  tables := by decide +kernel

theorem compile_agrees_acme : ∃ d, (compile acmeTree acmeDev).run.value = .ok d ∧
    d.get? "&dbtbl&" = some "sbntest".toList ∧ d.get? "&kind&" = some "plain".toList ∧
    d.get? "&if_feat&" = some "/*".toList ∧ d.get? "&lang&" = some "1".toList ∧
    d.get? "&users&" = some "sbntest..users".toList ∧ d.get? "&broken&" = none := by
  obtain ⟨hcompiles, hagrees⟩ := compile_agrees acmeTree acmeDev
  obtain ⟨d, hd⟩ := hcompiles.2 ⟨acmeSources, acmeSources_isIn⟩
  have hlast : ∀ name, d.get? name = lastValue (acmeSources.assignments acmeDev) name :=
    fun name => (hagrees acmeSources d acmeSources_isIn hd name).1
  refine ⟨d, hd, ?_⟩
  simp only [hlast]
  decide +kernel

end Dictionary

end SqlBuild
