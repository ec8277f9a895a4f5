import Mathlib.Data.List.Forall2
import SqlBuild.Proofs.TableLocations

/-!
# Delimiters in option sources

What is compiled depends on nothing but what the directives of the sources record
(`Dictionary.compile_value_congr`), so `&` around the names of options, conditionals and databases
changes nothing. The name of a table is recorded as it is written, and `&` around it ends up in what
its placeholder stands for, unless it is too long to be recorded at all
(`Dictionary.compile_delimited`).
-/

namespace SqlBuild

section Results

variable {ε α β γ : Type}

/-- Two results are alike: they are one error, or values that are alike. -/
inductive ResultsAlike (R : α → β → Prop) : Except ε α → Except ε β → Prop
  | error (e : ε) : ResultsAlike R (.error e) (.error e)
  | ok {a : α} {b : β} (h : R a b) : ResultsAlike R (.ok a) (.ok b)

theorem ResultsAlike.of_eq {x y : Except ε α} (h : x = y) : ResultsAlike Eq x y := by
  subst h
  cases x with
  | error e => exact .error e
  | ok a => exact .ok rfl

theorem ResultsAlike.mono {R S : α → β → Prop} {x : Except ε α} {y : Except ε β}
    (h : ResultsAlike R x y) (himp : ∀ a b, R a b → S a b) : ResultsAlike S x y := by
  cases h with
  | error e => exact .error e
  | ok h => exact .ok (himp _ _ h)

theorem ResultsAlike.of_ok {R : α → β → Prop} {x : Except ε α} {y : Except ε β} {a : α}
    (h : ResultsAlike R x y) (hx : x = .ok a) : ∃ b, y = .ok b ∧ R a b := by
  cases h with
  | error e => cases hx
  | ok h => exact ⟨_, rfl, Except.ok.inj hx ▸ h⟩

theorem Reading.bind_value_congr {R : α → β → Prop} {x : Reading α} {x' : Reading β}
    {f : α → Reading γ} {f' : β → Reading γ} (hx : ResultsAlike R x.run.value x'.run.value)
    (hf : ∀ a b, R a b → (f a).run.value = (f' b).run.value) :
    (x >>= f).run.value = (x' >>= f').run.value := by
  rw [ExceptT.run_bind, ExceptT.run_bind, Noted.value_bind, Noted.value_bind]
  generalize x.run.value = result, x'.run.value = result' at hx
  cases hx with
  | error e => rfl
  | ok h => exact hf _ _ h

end Results

/-- Two files are read alike: for one reason they are not, or the directives are alike in turn. -/
def ReadAlike (S : Directive → Directive → Prop) (tree tree' : FileTree) (path : Text) : Prop :=
  ResultsAlike (fun content content' =>
    List.Forall₂ S (Directive.ofContent content) (Directive.ofContent content'))
    (tree.readText path) (tree'.readText path)

theorem ReadAlike.ofFile_value {S : Directive → Directive → Prop} {tree tree' : FileTree}
    {path : Text} (h : ReadAlike S tree tree' path) :
    ResultsAlike (fun sources sources' => List.Forall₂ S
      (sources.map SourceDirective.directive) (sources'.map SourceDirective.directive))
      (SourceDirective.ofFile tree path).run.value
      (SourceDirective.ofFile tree' path).run.value := by
  unfold SourceDirective.ofFile
  unfold ReadAlike at h
  generalize tree.readText path = read, tree'.readText path = read' at h
  cases h with
  | error cause => exact .error _
  | @ok content content' h =>
    have hread : ∀ content, (SourceDirective.ofLines path 1 (Text.lines content)).value.map
        SourceDirective.directive = Directive.ofContent content :=
      fun content => SourceDirective.directives_ofLines path (Text.lines content) 1
    rw [← hread content, ← hread content'] at h
    exact .ok h

namespace Dictionary

section Congr

variable {tree tree' : FileTree} {env : Environment}

/-- Directives that record the same in an option file. -/
def MergedAlike (directive directive' : Directive) : Prop :=
  ∀ d : Dictionary, d.merge directive = d.merge directive'

/-- Directives that record the same among the table mappings, whatever lines they are on. -/
def MappedAlike (directive directive' : Directive) : Prop :=
  ∀ (d : Dictionary) (line line' : Nat),
    (d.mergeMapping ⟨line, directive⟩).value = (d.mergeMapping ⟨line', directive'⟩).value

theorem foldl_merge_congr {ds ds' : List Directive} (h : List.Forall₂ MergedAlike ds ds') :
    ∀ d : Dictionary, ds.foldl merge d = ds'.foldl merge d := by
  induction h with
  | nil => exact fun d => rfl
  | cons hfirst _ ih =>
    intro d
    rw [List.foldl_cons, List.foldl_cons, hfirst d, ih]

theorem foldlM_mergeMapping_congr : ∀ {sources sources' : List SourceDirective},
    List.Forall₂ MappedAlike (sources.map (·.directive)) (sources'.map (·.directive)) →
      ∀ d : Dictionary,
        (sources.foldlM mergeMapping d).value = (sources'.foldlM mergeMapping d).value
  | [], [], _, _ => rfl
  | [], _ :: _, h, _ => nomatch h
  | _ :: _, [], h, _ => nomatch h
  | source :: sources, source' :: sources', .cons hfirst hrest, d => by
    rw [List.foldlM_cons, List.foldlM_cons, Noted.value_bind, Noted.value_bind,
      hfirst d source.line source'.line]
    exact foldlM_mergeMapping_congr hrest _

theorem mergeTier_value_congr {tier : Tier}
    (hfile : tree.isFile (env.tierFile tier) = tree'.isFile (env.tierFile tier))
    (h : ReadAlike MergedAlike tree tree' (env.tierFile tier)) (d : Dictionary) :
    (mergeTier tree env d tier).run.value = (mergeTier tree' env d tier).run.value := by
  unfold mergeTier
  dsimp only
  rw [hfile]
  split
  · refine Reading.bind_value_congr h.ofFile_value fun sources sources' halike => ?_
    exact congrArg Except.ok (foldl_merge_congr halike d)
  · rfl

theorem foldlM_mergeTier_congr : ∀ {tiers : List Tier},
    (∀ tier ∈ tiers, tree.isFile (env.tierFile tier) = tree'.isFile (env.tierFile tier) ∧
      ReadAlike MergedAlike tree tree' (env.tierFile tier)) → ∀ d : Dictionary,
      (tiers.foldlM (mergeTier tree env) d).run.value =
        (tiers.foldlM (mergeTier tree' env) d).run.value
  | [], _, _ => rfl
  | tier :: tiers, h, d => by
    rw [List.forall_mem_cons] at h
    rw [List.foldlM_cons, List.foldlM_cons]
    refine Reading.bind_value_congr (.of_eq (mergeTier_value_congr h.1.1 h.1.2 d)) ?_
    rintro next _ rfl
    exact foldlM_mergeTier_congr h.2 next

/-- Sources whose directives record the same are compiled to the same. -/
theorem compile_value_congr
    (htiers : ∀ tier ∈ Tier.all, tree.isFile (env.tierFile tier) =
      tree'.isFile (env.tierFile tier) ∧ ReadAlike MergedAlike tree tree' (env.tierFile tier))
    (htables : ReadAlike MappedAlike tree tree' env.tableLocationsFile) :
    (compile tree env).run.value = (compile tree' env).run.value := by
  unfold compile
  refine Reading.bind_value_congr (.of_eq (foldlM_mergeTier_congr htiers _)) ?_
  rintro options _ rfl
  refine Reading.bind_value_congr htables.ofFile_value fun sources sources' halike => ?_
  exact congrArg Except.ok (foldlM_mergeMapping_congr halike _)

end Congr

section Tables

variable {directive directive' : Directive} {table database description : Text}

theorem mergedAlike_of_tableDelimited (h : Directive.TableDelimited directive directive') :
    MergedAlike directive directive' := by
  cases h with
  | same => exact fun d => rfl
  | table => exact fun d => rfl

/-- The number of its line is only mentioned in what is said about a mapping. -/
theorem MappedAlike.refl (directive : Directive) : MappedAlike directive directive := by
  intro d line line'
  cases directive <;> rfl

/-- A table whose name is too long is recorded neither with nor without delimiters. -/
theorem mappedAlike_table (hname : Text.Unbroken table) (hfree : '&' ∉ table)
    (hfits : fits (placeholder table) = false) (database description : Text) :
    MappedAlike (.table table database description)
      (.table (delimited table) database description) := by
  intro d line line'
  have htrim := Text.trim_of_unbroken hname
  have hplaceholder := placeholder_delimited hfree htrim
  have hwritten : fits (delimited table) = false := placeholder_eq hfree htrim ▸ hfits
  have hlonger : Text.byteLength table ≤ Text.byteLength (delimited table) := by
    have hsplit : delimited table = ['&'] ++ table ++ ['&'] := rfl
    rw [hsplit, byteLength_append, byteLength_append]
    omega
  have hnone := fits_databasePlaceholder hwritten hlonger
  have hnone' := fits_databasePlaceholder hwritten le_rfl
  simp [mergeMapping, mapTable, Dictionary.insert, hplaceholder, hfits, hnone, hnone']

theorem delimited_ne (name : Text) : delimited name ≠ name := by
  intro h
  have hlength := congrArg List.length h
  simp [delimited] at hlength
  omega

theorem of_tableDelimited (h : Directive.TableDelimited (.table table database description)
    (.table (delimited table) database description)) : Text.Unbroken table ∧ '&' ∉ table := by
  generalize hwritten : delimited table = written at h
  cases h with
  | same => exact absurd hwritten (delimited_ne table)
  | table hname hfree => exact ⟨hname, hfree⟩

/-- No table without delimiters is the database of one with them. -/
theorem databasePlaceholder_delimited_ne (hfree : '&' ∉ table) (name : Text) :
    databasePlaceholder (delimited name) ≠ delimited table := by
  intro h
  have htable : "db-" ++ delimited name = table :=
    List.append_cancel_right (List.cons.inj h).2
  refine hfree (htable ▸ ?_)
  simp [delimited]

/-- The name of the table is the end of what its placeholder stands for. -/
theorem qualified_delimited_ne (hfree : '&' ∉ table) (x y : Text) :
    x ++ ".." ++ delimited table ≠ y ++ ".." ++ table := by
  intro h
  have hend : (x ++ ".." ++ delimited table).getLast? = some '&' := by
    rw [delimited, ← List.append_assoc]
    exact List.getLast?_concat
  have hlast : (".." ++ table : Text).getLast? = some '&' := by
    rw [← hend, h, List.append_assoc]
    exact (List.getLast?_append_of_ne_nil y (List.cons_ne_nil '.' _)).symm
  rcases List.mem_append.1 (List.mem_of_getLast? hlast) with hmem | hmem
  · exact absurd hmem (by decide)
  · exact hfree hmem

/-- A line of the mappings that records nothing under a placeholder. -/
def Spares (token : Text) (directive : Directive) : Prop :=
  ∀ name database description, directive = .table name database description →
    placeholder name ≠ token ∧ databasePlaceholder name ≠ token

theorem Spares.delimited (h : Spares (delimited table) directive) (hfree : '&' ∉ table)
    (halike : Directive.TableDelimited directive directive') :
    Spares (SqlBuild.delimited table) directive' := by
  cases halike with
  | same => exact h
  | @table name hname hname' database description =>
    rintro _ _ _ ⟨⟩
    rw [placeholder_delimited hname' (Text.trim_of_unbroken hname)]
    exact ⟨(h _ _ _ rfl).1, databasePlaceholder_delimited_ne hfree name⟩

end Tables

section Respelt

variable {tree tree' : FileTree} {env : Environment}

/-- A file is there in both trees or in neither, and line by line the second one differs from the
first in delimiters around names only. -/
def Respelt (tree tree' : FileTree) (path : Text) : Prop :=
  tree'.isFile path = tree.isFile path ∧
    ResultsAlike (fun content content' =>
      List.Forall₂ Directive.Redelimited (Text.lines content) (Text.lines content'))
      (tree.readText path) (tree'.readText path)

theorem Respelt.readAlike {path : Text} (h : Respelt tree tree' path) :
    ReadAlike Directive.TableDelimited tree tree' path :=
  h.2.mono fun _ _ hlines => List.rel_filterMap (fun _ _ hline => hline.onLine?) hlines

theorem exists_respelt {sources : Sources} (hin : sources.IsIn tree env)
    (h : ∀ path ∈ env.optionSources, Respelt tree tree' path) :
    ∃ sources' : Sources, sources'.IsIn tree' env ∧ List.Forall₂ Directive.TableDelimited
      (Directive.ofContent sources.tables) (Directive.ofContent sources'.tables) := by
  have htier : ∀ tier, ∃ content, Sources.IsTier tree' env tier content := by
    intro tier
    have hmem : tier ∈ Tier.all := by cases tier <;> decide
    have hfile := h _ (List.mem_append_left _ (List.mem_map_of_mem hmem))
    have hgiven := hin.tier tier
    cases hcontent : sources.tier tier with
    | none =>
      rw [hcontent] at hgiven
      exact ⟨none, hfile.1.trans hgiven⟩
    | some content =>
      rw [hcontent] at hgiven
      obtain ⟨content', hread, -⟩ := hfile.2.of_ok hgiven.2
      exact ⟨some content', hfile.1.trans hgiven.1, hread⟩
  obtain ⟨tier', htier'⟩ := Classical.skolem.1 htier
  obtain ⟨tables', hread, halike⟩ :=
    (h _ (List.mem_append_right _ (List.mem_singleton.2 rfl))).readAlike.of_ok hin.tables
  exact ⟨⟨tier', tables'⟩, ⟨htier', hread⟩, halike⟩

/-- The table mappings of a tree. -/
def mappings (tree : FileTree) (env : Environment) : List Directive :=
  match tree.readText env.tableLocationsFile with
  | .ok content => Directive.ofContent content
  | .error _ => []

theorem mappings_of_isIn {sources : Sources} (hin : sources.IsIn tree env) :
    mappings tree env = Directive.ofContent sources.tables := by
  rw [mappings, hin.tables]

/-- A mapping, and the mapping with `&` around the name of its table. -/
def twice (table database description : Text) : Directive × Directive :=
  (.table table database description, .table (delimited table) database description)

theorem compile_of_long (h : ∀ path ∈ env.optionSources, Respelt tree tree' path)
    (hlong : ∀ table database description,
      twice table database description ∈ (mappings tree env).zip (mappings tree' env) →
        fits (placeholder table) = false) :
    (compile tree' env).run.value = (compile tree env).run.value := by
  have htables := (h _ (List.mem_append_right _ (List.mem_singleton.2 rfl))).readAlike
  refine (compile_value_congr (fun tier htier => ?_) ?_).symm
  · have hfile := h _ (List.mem_append_left _ (List.mem_map_of_mem htier))
    refine ⟨hfile.1.symm, hfile.readAlike.mono fun _ _ hall => ?_⟩
    exact hall.imp fun _ _ => mergedAlike_of_tableDelimited
  · unfold mappings at hlong
    unfold ReadAlike at htables ⊢
    generalize tree.readText _ = read, tree'.readText _ = read' at htables hlong
    cases htables with
    | error cause => exact .error cause
    | ok hall =>
      refine .ok (List.forall₂_iff_zip.2 ⟨hall.length_eq, fun {m m'} hmem => ?_⟩)
      cases List.forall₂_zip hall hmem with
      | same => exact .refl m
      | table hname hfree => exact mappedAlike_table hname hfree (hlong _ _ _ hmem) _ _

/-- The value of a table's placeholder, with the table's name as it is written on its line. -/
theorem exists_get?_delimited {d : Dictionary} {earlier later : List (Directive × Directive)}
    {table database description : Text}
    (h : ∀ path ∈ env.optionSources, Respelt tree tree' path)
    (hd : (compile tree env).run.value = .ok d)
    (hzip : (mappings tree env).zip (mappings tree' env) =
      earlier ++ twice table database description :: later)
    (hfits : fits (placeholder table) = true)
    (hlater : ∀ pair ∈ later, Spares (placeholder table) pair.1) :
    ∃ d' x y, (compile tree' env).run.value = .ok d' ∧ '&' ∉ table ∧
      d.get? (placeholder table) = some (x ++ ".." ++ table) ∧
      d'.get? (placeholder table) = some (y ++ ".." ++ delimited table) := by
  obtain ⟨sources, hin⟩ := exists_sources hd
  obtain ⟨sources', hin', hall⟩ := exists_respelt hin h
  obtain ⟨d', hd', -⟩ := exists_compile hin'
  rw [mappings_of_isIn hin, mappings_of_isIn hin'] at hzip
  have hpair : ∀ pair ∈ earlier ++ twice table database description :: later,
      Directive.TableDelimited pair.1 pair.2 := by
    rw [← hzip]
    exact fun pair hmem => List.forall₂_zip hall hmem
  have hlines := congrArg (List.map Prod.fst) hzip
  have hlines' := congrArg (List.map Prod.snd) hzip
  rw [List.map_fst_zip hall.length_eq.le, List.map_append, List.map_cons] at hlines
  rw [List.map_snd_zip hall.length_eq.ge, List.map_append, List.map_cons] at hlines'
  obtain ⟨hname, hfree⟩ :=
    of_tableDelimited (hpair _ (List.mem_append_right _ List.mem_cons_self))
  have htrim := Text.trim_of_unbroken hname
  have htoken := placeholder_eq hfree htrim
  have htoken' : placeholder (delimited table) = delimited table :=
    (placeholder_delimited hfree htrim).trans htoken
  have hvalue := get?_table (Sources.agrees_at hin hd hlines)
    (databasePlaceholder_ne hfree hname) hfits fun _ _ _ hmem => by
      obtain ⟨pair, hin, heq⟩ := List.mem_map.1 hmem
      exact hlater pair hin _ _ _ heq
  rw [htoken] at hfits hlater hvalue ⊢
  have hne' : databasePlaceholder (delimited table) ≠ placeholder (delimited table) := by
    rw [htoken']
    exact databasePlaceholder_delimited_ne hfree table
  have hfits' : fits (placeholder (delimited table)) = true := by rw [htoken', hfits]
  have hvalue' := get?_table (Sources.agrees_at hin' hd' hlines') hne' hfits' fun _ _ _ hmem => by
    obtain ⟨pair, hin, heq⟩ := List.mem_map.1 hmem
    have halike := hpair pair (List.mem_append_right _ (List.mem_cons_of_mem _ hin))
    rw [htoken']
    exact (hlater pair hin).delimited hfree halike _ _ _ heq
  rw [htoken'] at hvalue'
  exact ⟨d', _, _, hd', hfree, hvalue, hvalue'⟩

/-- Delimiters around names change nothing about what is compiled, as long as no table has them that
can be recorded. Such a table's placeholder gets another value, unless a later line decides over
it. -/
theorem compile_delimited (h : ∀ path ∈ env.optionSources, Respelt tree tree' path) :
    ((∀ table database description,
      twice table database description ∈ (mappings tree env).zip (mappings tree' env) →
        fits (placeholder table) = false) →
      (compile tree' env).run.value = (compile tree env).run.value) ∧
    ∀ d earlier table database description later, (compile tree env).run.value = .ok d →
      (mappings tree env).zip (mappings tree' env) =
        earlier ++ twice table database description :: later →
      fits (placeholder table) = true → (∀ pair ∈ later, Spares (placeholder table) pair.1) →
      ∃ d', (compile tree' env).run.value = .ok d' ∧
        d'.get? (placeholder table) ≠ d.get? (placeholder table) := by
  refine ⟨compile_of_long h, ?_⟩
  intro d earlier table database description later hd hzip hfits hlater
  obtain ⟨d', x, y, hd', hfree, hvalue, hvalue'⟩ := exists_get?_delimited h hd hzip hfits hlater
  refine ⟨d', hd', fun heq => ?_⟩
  rw [hvalue, hvalue'] at heq
  exact qualified_delimited_ne hfree y x (Option.some.inj heq)

end Respelt

section Company

open Metadata (acmeFiles)

variable {tree tree' : FileTree} {path options options' tables tables' : Text}

theorem respelt_of_find {content content' : Text}
    (h : tree.find path = .ok (.file (Utf8.encode content) 0))
    (h' : tree'.find path = .ok (.file (Utf8.encode content') 0))
    (hlines : List.Forall₂ Directive.Redelimited (Text.lines content) (Text.lines content')) :
    Respelt tree tree' path := by
  refine ⟨by rw [FileTree.isFile, FileTree.isFile, h, h'], ?_⟩
  rw [FileTree.readText_of_find h, FileTree.readText_of_find h']
  exact .ok hlines

theorem respelt_of_missing {cause : IoError} (h : tree.find path = .error cause)
    (h' : tree'.find path = .error cause) : Respelt tree tree' path := by
  refine ⟨by rw [FileTree.isFile, FileTree.isFile, h, h'], ?_⟩
  rw [FileTree.readText_of_missing h, FileTree.readText_of_missing h']
  exact .error cause

theorem respelt_acmeFiles
    (hoptions : List.Forall₂ Directive.Redelimited (Text.lines options) (Text.lines options'))
    (htables : List.Forall₂ Directive.Redelimited (Text.lines tables) (Text.lines tables')) :
    ∀ path ∈ acmeDev.optionSources,
      Respelt (acmeFiles options tables) (acmeFiles options' tables') path := by
  simp only [Environment.optionSources, Tier.all, List.map_cons, List.map_nil, List.cons_append,
    List.nil_append, List.forall_mem_cons]
  exact ⟨respelt_of_missing rfl rfl, respelt_of_find rfl rfl hoptions, respelt_of_missing rfl rfl,
    respelt_of_find rfl rfl htables, List.forall_mem_nil _⟩

/-- A table whose name is too long to be recorded. -/
def longTable : Text := "quarterly_account_balances_by_department"

def plainFiles : FileTree :=
  acmeFiles "v: m <<main>>\nc: live -\n" ("-> users m accounts\n-> " ++ longTable ++ " m\n")

def delimitedFiles : FileTree :=
  acmeFiles "v: &m& <<main>>\nc: &live& -\n"
    ("-> users &m& accounts\n-> &" ++ longTable ++ "& &m&\n")

def delimitedTable : FileTree :=
  acmeFiles "v: m <<main>>\nc: live -\n" ("-> &users& m accounts\n-> " ++ longTable ++ " m\n")

theorem redelimited_option : Directive.Redelimited "v: m <<main>>" "v: &m& <<main>>" :=
  .around (@Directive.Names.option 'v' (.inl rfl) [] " " " " "m" (by decide) (by decide)
    (by decide) (by decide) (by decide) "main>>") (by decide)

theorem redelimited_conditional : Directive.Redelimited "c: live -" "c: &live& -" :=
  .around (@Directive.Names.conditional 'c' (.inl rfl) [] " " "live" " -" (by decide) (by decide)
    (by decide) (by decide)) (by decide)

theorem redelimited_table (behind : Text) {table : Text} (htable : Text.Whole table)
    (hfree : '&' ∉ table) (hbehind : behind.head?.all isBlank = true) :
    Directive.Redelimited ("-> " ++ table ++ behind) ("-> " ++ delimited table ++ behind) :=
  .around (@Directive.Names.table [] " " table behind (by decide) (by decide) htable hbehind) hfree

theorem redelimited_database (behind : Text) {table : Text} (htable : Text.Whole table)
    (hbehind : behind.head?.all isBlank = true) :
    Directive.Redelimited ("-> " ++ table ++ " m" ++ behind)
      ("-> " ++ table ++ " &m&" ++ behind) := by
  have h := @Directive.Redelimited.around _ ⟨"-> " ++ table ++ " ", behind⟩ "m"
    (@Directive.Names.database [] " " table " " "m" behind (by decide) (by decide) htable
      (by decide) (by decide) (by decide) hbehind) (by decide)
  simpa [Directive.Place.line, delimited] using h

theorem respelt_delimitedFiles :
    ∀ path ∈ acmeDev.optionSources, Respelt plainFiles delimitedFiles path := by
  have husers : Text.Whole "users" := by decide
  have hlong : Text.Whole longTable := by decide
  refine respelt_acmeFiles (.cons redelimited_option (.cons redelimited_conditional .nil))
    (.cons (redelimited_database " accounts" husers (by decide)) (.cons ?_ .nil))
  exact (redelimited_table " m" hlong (by decide) (by decide)).trans
    (redelimited_database [] (whole_delimited hlong.2) rfl)

theorem respelt_delimitedTable :
    ∀ path ∈ acmeDev.optionSources, Respelt plainFiles delimitedTable path := by
  have husers : Text.Whole "users" := by decide
  exact respelt_acmeFiles (.cons (.same _) (.cons (.same _) .nil))
    (.cons (redelimited_table " m accounts" husers (by decide) (by decide))
      (.cons (.same _) .nil))

theorem compile_delimited_acme :
    (∀ path ∈ acmeDev.optionSources, Respelt plainFiles delimitedFiles path) ∧
      (compile delimitedFiles acmeDev).run.value = (compile plainFiles acmeDev).run.value ∧
      (∀ path ∈ acmeDev.optionSources, Respelt plainFiles delimitedTable path) ∧
      ∃ d d', (compile plainFiles acmeDev).run.value = .ok d ∧
        (compile delimitedTable acmeDev).run.value = .ok d' ∧
        d'.get? "&users&" ≠ d.get? "&users&" := by
  have hlong : (mappings plainFiles acmeDev).zip (mappings delimitedFiles acmeDev) =
      [(.table "users" "&m&" "accounts", .table "users" "&m&" "accounts"),
        twice longTable "&m&" []] := by decide +kernel
  have htable : (mappings plainFiles acmeDev).zip (mappings delimitedTable acmeDev) =
      [] ++ twice "users" "&m&" "accounts" ::
        [(.table longTable "&m&" [], .table longTable "&m&" [])] := by decide +kernel
  have hspares : ∀ pair ∈ [((.table longTable "&m&" [], .table longTable "&m&" []) :
      Directive × Directive)], Spares (placeholder "users") pair.1 := by
    rw [List.forall_mem_singleton]
    rintro _ _ _ ⟨⟩
    decide
  obtain ⟨d, hd⟩ : ∃ d, (compile plainFiles acmeDev).run.value = .ok d := by
    have hsome : (compile plainFiles acmeDev).run.value.toOption.isSome = true := by decide +kernel
    cases hvalue : (compile plainFiles acmeDev).run.value with
    | ok d => exact ⟨d, rfl⟩
    | error e => simp [Except.toOption, hvalue] at hsome
  refine ⟨respelt_delimitedFiles, (compile_delimited respelt_delimitedFiles).1 ?_,
    respelt_delimitedTable, d, ?_⟩
  · intro table database description hmem
    rw [hlong, List.mem_cons, List.mem_singleton] at hmem
    rcases hmem with heq | heq
    · obtain ⟨rfl, -, -⟩ := Directive.table.inj (Prod.mk.inj heq).1
      exact absurd (Directive.table.inj (Prod.mk.inj heq).2).1 (delimited_ne _)
    · obtain ⟨rfl, -, -⟩ := Directive.table.inj (Prod.mk.inj heq).1
      decide
  · obtain ⟨d', hd', hne⟩ :=
      (compile_delimited respelt_delimitedTable).2 d _ _ _ _ _ hd htable (by decide) hspares
    exact ⟨d', hd, hd', hne⟩

theorem compile_delimited_table :
    (compile plainFiles acmeDev).run.value.toOption.bind (get? · "&users&") =
        some "main..users".toList ∧
      (compile delimitedTable acmeDev).run.value.toOption.bind (get? · "&users&") =
        some "main..&users&".toList ∧
      (compile delimitedTable acmeDev).run.value ≠ (compile plainFiles acmeDev).run.value :=
  ⟨by decide +kernel, by decide +kernel, by decide +kernel⟩

end Company

end Dictionary

end SqlBuild
