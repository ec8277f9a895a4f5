import Mathlib.Data.List.TakeDrop
import SqlBuild.Options.Compile
import SqlBuild.Proofs.Records
import SqlBuild.Proofs.Words

/-!
# What compiling depends on, and what it makes

Compiling reads the option sources of its environment and nothing else (`compile_congr`). The names
and values it records come from single lines, so they have no line feed in them, and what is compiled
fits the record form (`recordable_of_compile`); only the company and the language, which come from
the environment, have to be asked for it.
-/

namespace SqlBuild

namespace Text

theorem trim_subset (t : Text) : trim t ⊆ t := by
  intro c hc
  have h := (List.dropWhile_sublist _).subset (List.mem_reverse.1 hc)
  exact (List.dropWhile_sublist _).subset (List.mem_reverse.1 h)

theorem firstWord_subset (t : Text) : (firstWord t).1 ⊆ t ∧ (firstWord t).2 ⊆ t := by
  have hstart : trimStart t ⊆ t := (List.dropWhile_sublist _).subset
  unfold firstWord
  rw [List.span_eq_takeWhile_dropWhile]
  constructor
  · exact fun c hc => hstart ((List.takeWhile_sublist _).subset hc)
  · exact fun c hc => hstart ((List.dropWhile_sublist _).subset (trim_subset _ hc))

theorem splitAt?_subset {p : Text} : ∀ {t a b : Text}, splitAt? p t = some (a, b) → a ⊆ t ∧ b ⊆ t
  | [], a, b, h => by
    unfold splitAt? at h
    split at h
    · obtain ⟨rfl, rfl⟩ := Prod.mk.inj (Option.some.inj h)
      exact ⟨List.Subset.refl _, List.Subset.refl _⟩
    · cases h
  | c :: r, a, b, h => by
    unfold splitAt? at h
    split at h
    · rename_i rest hafter
      obtain ⟨rfl, rfl⟩ := Prod.mk.inj (Option.some.inj h)
      rw [after?_eq_some] at hafter
      rw [hafter]
      exact ⟨List.nil_subset _, List.subset_append_right _ _⟩
    · obtain ⟨⟨a', b'⟩, hs, heq⟩ := Option.map_eq_some_iff.1 h
      obtain ⟨rfl, rfl⟩ := Prod.mk.inj heq
      obtain ⟨ha, hb⟩ := splitAt?_subset hs
      exact ⟨List.cons_subset_cons c ha, List.subset_cons_of_subset c hb⟩

theorem not_mem_lines {t line : Text} (h : line ∈ lines t) : '\n' ∉ line := by
  obtain ⟨piece, hpiece, hline⟩ := exists_piece_of_mem_lines h
  exact fun hm => absurd (not_mem_splitOnP hpiece _ (hline hm)) (by decide)

end Text

theorem bareName_subset (name : Text) : bareName name ⊆ name := by
  refine List.Subset.trans ?_ (Text.trim_subset name)
  unfold bareName
  split
  · rename_i rest h
    rw [h]
    split
    · exact fun c hc => List.mem_cons_of_mem _ (List.dropLast_subset _ hc)
    · exact List.Subset.refl _
  · exact List.Subset.refl _

namespace Directive

/-- Nothing that a directive assigns goes over a line. -/
def OneLine : Directive → Prop
  | value name content _ _ => '\n' ∉ name ∧ '\n' ∉ content
  | conditional name _ _ _ => '\n' ∉ name
  | table name database _ => '\n' ∉ name ∧ '\n' ∉ database

variable {body : Text} {directive : Directive}

theorem oneLine_ofTableBody (hbody : '\n' ∉ body) (h : ofTableBody body = .ok directive) :
    directive.OneLine := by
  obtain ⟨hname, hrest⟩ := Text.firstWord_subset body
  obtain ⟨hdatabase, -⟩ := Text.firstWord_subset (Text.firstWord body).2
  unfold ofTableBody at h
  dsimp only at h
  split at h
  · cases h
  · obtain rfl := Except.ok.inj h
    refine ⟨fun hm => hbody (hname hm), ?_⟩
    simp only [placeholder, List.cons_append, List.mem_cons, List.mem_append, List.not_mem_nil,
      or_false, not_or]
    refine ⟨by decide, fun hm => ?_, by decide⟩
    exact hbody (hrest (hdatabase (bareName_subset _ hm)))

theorem oneLine_ofValueBody {dynamic : Bool} (hbody : '\n' ∉ body)
    (h : ofValueBody dynamic body = .ok directive) : directive.OneLine := by
  unfold ofValueBody at h
  split at h
  · cases h
  · rename_i written rest hopen
    obtain ⟨hwritten, hrest⟩ := Text.splitAt?_subset hopen
    split at h
    · cases h
    · rename_i content description hclose
      obtain ⟨hcontent, -⟩ := Text.splitAt?_subset hclose
      dsimp only at h
      split at h
      · cases h
      · obtain rfl := Except.ok.inj h
        exact ⟨fun hm => hbody (hwritten (bareName_subset _ hm)),
          fun hm => hbody (hrest (hcontent hm))⟩

theorem oneLine_ofConditionalBody {dynamic : Bool} (hbody : '\n' ∉ body)
    (h : ofConditionalBody dynamic body = .ok directive) : directive.OneLine := by
  obtain ⟨hname, -⟩ := Text.firstWord_subset body
  have hbare : '\n' ∉ bareName (Text.firstWord body).1 :=
    fun hm => hbody (hname (bareName_subset _ hm))
  unfold ofConditionalBody at h
  dsimp only at h
  split at h
  · obtain rfl := Except.ok.inj h
    exact hbare
  · split at h
    · obtain rfl := Except.ok.inj h
      exact hbare
    · cases h

theorem ok_of_map {x : Except DirectiveError Directive} (h : x.map some = .ok (some directive)) :
    x = .ok directive := by
  cases x with
  | error e => cases h
  | ok d => rw [Option.some.inj (Except.ok.inj h)]

theorem oneLine_ofLine {line : Text} (hline : '\n' ∉ line)
    (h : ofLine? line = .ok (some directive)) : directive.OneLine := by
  have hsub := Text.trim_subset line
  have hbody : ∀ {a b : Char} {body : Text}, Text.trim line = a :: b :: body → '\n' ∉ body := by
    intro a b body heq hm
    rw [heq] at hsub
    exact hline (hsub (List.mem_cons_of_mem _ (List.mem_cons_of_mem _ hm)))
  unfold ofLine? at h
  split at h
  · exact oneLine_ofTableBody (hbody ‹_›) (ok_of_map h)
  · exact oneLine_ofValueBody (hbody ‹_›) (ok_of_map h)
  · exact oneLine_ofValueBody (hbody ‹_›) (ok_of_map h)
  · exact oneLine_ofConditionalBody (hbody ‹_›) (ok_of_map h)
  · exact oneLine_ofConditionalBody (hbody ‹_›) (ok_of_map h)
  · cases h

end Directive

section Values

variable {α β : Type}

theorem Noted.foldlM_value {P : β → Prop} {f : β → α → Noted β} :
    ∀ {xs : List α} {b : β}, (∀ b, ∀ x ∈ xs, P b → P (f b x).value) → P b → P (xs.foldlM f b).value
  | [], _, _, hb => hb
  | x :: xs, b, hf, hb => by
    rw [List.foldlM_cons, Noted.value_bind]
    exact foldlM_value (fun b y hy => hf b y (List.mem_cons_of_mem _ hy))
      (hf b x List.mem_cons_self hb)

theorem Reading.bind_value {x : Reading α} {f : α → Reading β} {b : β} :
    (x >>= f).run.value = .ok b ↔ ∃ a, x.run.value = .ok a ∧ (f a).run.value = .ok b := by
  rw [ExceptT.run_bind, Noted.value_bind]
  cases hx : x.run.value with
  | error e => simp
  | ok a => simp

theorem Reading.foldlM_value {P : β → Prop} {f : β → α → Reading β}
    (hf : ∀ {b x c}, (f b x).run.value = .ok c → P b → P c) :
    ∀ {xs : List α} {b c : β}, (xs.foldlM f b).run.value = .ok c → P b → P c
  | [], b, c, h, hb => by
    obtain rfl := Except.ok.inj h
    exact hb
  | x :: xs, b, c, h, hb => by
    rw [List.foldlM_cons] at h
    obtain ⟨d, hd, hrest⟩ := Reading.bind_value.1 h
    exact Reading.foldlM_value hf hrest (hf hd hb)

end Values

namespace SourceDirective

theorem oneLine_ofLines {path : Text} : ∀ {ls : List Text} {number : Nat}, (∀ l ∈ ls, '\n' ∉ l) →
    ∀ s ∈ (ofLines path number ls).value, s.directive.OneLine
  | [], _, _, s, hs => absurd hs List.not_mem_nil
  | line :: rest, number, h, s, hs => by
    have ih : ∀ s ∈ (ofLines path (number + 1) rest).value, s.directive.OneLine :=
      oneLine_ofLines fun l hl => h l (List.mem_cons_of_mem _ hl)
    unfold ofLines at hs
    split at hs
    · exact ih s hs
    · rename_i directive hline
      rcases List.mem_cons.1 hs with rfl | hs
      · exact Directive.oneLine_ofLine (h line List.mem_cons_self) hline
      · exact ih s hs
    · exact ih s hs

theorem oneLine_ofFile {tree : FileTree} {path : Text} {sources : List SourceDirective}
    (h : (ofFile tree path).run.value = .ok sources) : ∀ s ∈ sources, s.directive.OneLine := by
  unfold ofFile at h
  split at h
  · cases h
  · obtain rfl := Except.ok.inj h
    exact oneLine_ofLines fun _ => Text.not_mem_lines

end SourceDirective

namespace Dictionary

variable {d : Dictionary}

theorem mem_passFrom {c : Char} : ∀ {t : Text} {k : Nat}, c ∈ d.passFrom k t →
    c ∈ t ∨ ∃ e ∈ d.entries, c ∈ e.2
  | [], k, h => by
    rw [passFrom] at h
    exact .inl h
  | b :: rest, k + 1, h => by
    rw [passFrom] at h
    exact (mem_passFrom h).imp_left (List.mem_cons_of_mem _)
  | b :: rest, 0, h => by
    rw [passFrom] at h
    split at h
    · rename_i hb
      split at h
      · rename_i value k hopened
        obtain ⟨name, -, hvalue⟩ := Option.bind_eq_some_iff.1 hopened
        obtain ⟨found, hfound, heq⟩ := Option.bind_eq_some_iff.1 hvalue
        obtain ⟨rfl, -⟩ := Prod.mk.inj (Option.some.inj heq)
        obtain ⟨before, after, hentries, -⟩ := List.lookup_eq_some_iff.1 hfound
        rcases List.mem_append.1 h with h | h
        · exact .inr ⟨_, by rw [hentries]; exact List.mem_append_right _ List.mem_cons_self, h⟩
        · exact (mem_passFrom h).imp_left (List.mem_cons_of_mem _)
      · rcases List.mem_cons.1 h with rfl | h
        · exact .inl (hb ▸ List.mem_cons_self)
        · exact (mem_passFrom h).imp_left (List.mem_cons_of_mem _)
    · rcases List.mem_cons.1 h with rfl | h
      · exact .inl List.mem_cons_self
      · exact (mem_passFrom h).imp_left (List.mem_cons_of_mem _)

/-- Resolving brings in the characters of values and no others. -/
theorem mem_resolveWithin {c : Char} : ∀ {n : Nat} {t : Text}, c ∈ d.resolveWithin n t →
    c ∈ t ∨ ∃ e ∈ d.entries, c ∈ e.2
  | 0, t, h => .inl h
  | n + 1, t, h => by
    rw [resolveWithin] at h
    split at h
    · dsimp only at h
      split at h
      · exact .inl h
      · rcases mem_resolveWithin h with h | h
        · exact mem_passFrom h
        · exact .inr h
    · exact .inl h

theorem Recordable.not_mem_resolve (h : d.Recordable) {t : Text} (ht : '\n' ∉ t) :
    '\n' ∉ d.resolve t := by
  intro hm
  rcases mem_resolveWithin hm with hm | ⟨e, he, hm⟩
  · exact ht hm
  · exact (h.records e he).valueLine hm

theorem Recordable.insert_enclosed (h : d.Recordable) (name : Text) {value : Text}
    (hname : '\n' ∉ name) (hvalue : '\n' ∉ value) :
    (d.insert ('&' :: name ++ ['&']) value).Recordable := by
  refine h.insert rfl ?_ ?_ hvalue
  · exact List.isSuffixOf_iff_suffix.2 ⟨'&' :: name, rfl⟩
  · simp only [List.cons_append, List.mem_cons, List.mem_append, List.not_mem_nil, or_false, not_or]
    exact ⟨by decide, hname, by decide⟩

theorem not_mem_bareName {name : Text} (h : '\n' ∉ name) : '\n' ∉ bareName name :=
  fun hm => h (bareName_subset name hm)

theorem Recordable.insertConditional (h : d.Recordable) {name : Text} (hname : '\n' ∉ name)
    (enabled : Bool) : (d.insertConditional name enabled).Recordable := by
  have hmark : ∀ (live : Bool) {text : Text}, '\n' ∉ text →
      '\n' ∉ (if live then [] else text) := by
    intro live text ht
    cases live
    · exact ht
    · simp
  have hopen : '\n' ∉ commentOpen := by decide
  have hclose : '\n' ∉ commentClose := by decide
  have hpart : ∀ {before : Text}, '\n' ∉ before → '\n' ∉ before ++ name := by
    intro before hb hm
    exact (List.mem_append.1 hm).elim hb hname
  unfold Dictionary.insertConditional
  split
  · refine Recordable.insert_enclosed ?_ ("endifn_" ++ name) (hpart (by decide)) (hmark _ hclose)
    refine Recordable.insert_enclosed ?_ ("ifn_" ++ name) (hpart (by decide)) (hmark _ hopen)
    refine Recordable.insert_enclosed ?_ ("endif_" ++ name) (hpart (by decide)) (hmark _ hclose)
    exact h.insert_enclosed ("if_" ++ name) (hpart (by decide)) (hmark _ hopen)
  · exact h

theorem Recordable.merge (h : d.Recordable) {directive : Directive} (hx : directive.OneLine) :
    (d.merge directive).Recordable := by
  unfold Dictionary.merge
  split
  · exact h.insert_enclosed _ (not_mem_bareName hx.1) hx.2
  · exact h.insertConditional hx _
  · exact h

theorem Recordable.mapTable (h : d.Recordable) (line : Nat) {table database : Text}
    (htable : '\n' ∉ table) (hdatabase : '\n' ∉ database) :
    (d.mapTable line table database).value.Recordable := by
  have hresolved := h.not_mem_resolve hdatabase
  have hqualified : '\n' ∉ d.resolve database ++ ".." ++ table := by
    simp only [List.mem_append, not_or]
    exact ⟨⟨hresolved, by decide⟩, htable⟩
  have hname : '\n' ∉ ("db-" : Text) ++ table := by
    simp only [List.mem_append, not_or]
    exact ⟨by decide, htable⟩
  exact (h.insert_enclosed _ (not_mem_bareName htable) hqualified).insert_enclosed _ hname hresolved

theorem Recordable.mergeMapping (h : d.Recordable) {source : SourceDirective}
    (hx : source.directive.OneLine) : (d.mergeMapping source).value.Recordable := by
  unfold Dictionary.mergeMapping
  split
  · rename_i table database description heq
    rw [heq] at hx
    exact h.mapTable _ hx.1 hx.2
  · exact h

theorem Recordable.mergeEnvironment (h : d.Recordable) {env : Environment}
    (hcompany : '\n' ∉ env.company) (hlanguage : '\n' ∉ env.language) :
    (mergeEnvironment env d).Recordable :=
  (h.insert_enclosed "cmpy" (by decide) hcompany).insert_enclosed "lang" (by decide) hlanguage

theorem recordable_ofPlatform (platform : Platform) : (ofPlatform platform).Recordable :=
  (recordable_empty.insertConditional (by decide) _).insertConditional (by decide) _

theorem Recordable.mergeTier {tree : FileTree} {env : Environment} {tier : Tier} {d' : Dictionary}
    (hd' : (mergeTier tree env d tier).run.value = .ok d') (h : d.Recordable) : d'.Recordable := by
  unfold Dictionary.mergeTier at hd'
  dsimp only at hd'
  split at hd'
  · obtain ⟨sources, hsources, hd'⟩ := Reading.bind_value.1 hd'
    obtain rfl := Except.ok.inj hd'
    have hone := SourceDirective.oneLine_ofFile hsources
    refine List.foldlRecOn _ Dictionary.merge h fun d hd directive hdirective => ?_
    obtain ⟨source, hsource, rfl⟩ := List.mem_map.1 hdirective
    exact hd.merge (hone source hsource)
  · obtain rfl := Except.ok.inj hd'
    exact h

/-- What is compiled fits the record form, but for line feeds in the settings. -/
theorem recordable_of_compile {tree : FileTree} {env : Environment}
    (hcompany : '\n' ∉ env.company) (hlanguage : '\n' ∉ env.language)
    (h : (compile tree env).run.value = .ok d) : d.Recordable := by
  obtain ⟨options, hoptions, h⟩ := Reading.bind_value.1 h
  obtain ⟨sources, hsources, h⟩ := Reading.bind_value.1 h
  have hone := SourceDirective.oneLine_ofFile hsources
  obtain rfl := Except.ok.inj h
  have hmerged : options.Recordable :=
    Reading.foldlM_value Recordable.mergeTier hoptions (recordable_ofPlatform env.platform)
  exact Noted.foldlM_value (fun d source hs hd => hd.mergeMapping (hone source hs))
    (hmerged.mergeEnvironment hcompany hlanguage)

section Congr

variable {tree tree' : FileTree} {env env' : Environment}

/-- Equal in everything that enters a dictionary. -/
structure SameSettings (env env' : Environment) : Prop where
  platform : env.platform = env'.platform
  company : env.company = env'.company
  name : env.name = env'.name
  language : env.language = env'.language
  root : env.root = env'.root

theorem SameSettings.tierFile (h : SameSettings env env') (tier : Tier) :
    env.tierFile tier = env'.tierFile tier := by
  have hname : tier.fileName env = tier.fileName env' := by
    unfold Tier.fileName
    rw [h.company, h.name]
  unfold Environment.tierFile Environment.setupDirectory
  rw [h.root, hname]

theorem SameSettings.tableLocationsFile (h : SameSettings env env') :
    env.tableLocationsFile = env'.tableLocationsFile := by
  unfold Environment.tableLocationsFile Environment.setupDirectory
  rw [h.root]

/-- The same files are there, and the same texts in them. -/
def SameFiles (tree tree' : FileTree) (names : List Text) : Prop :=
  ∀ name ∈ names, tree.isFile name = tree'.isFile name ∧
    (tree'.isFile name = true → tree.readText name = tree'.readText name)

theorem ofFile_congr {path : Text} (h : tree.readText path = tree'.readText path) :
    SourceDirective.ofFile tree path = SourceDirective.ofFile tree' path := by
  unfold SourceDirective.ofFile
  rw [h]

theorem mergeTier_congr (hsettings : SameSettings env env')
    (h : SameFiles tree tree' env'.optionSources) :
    mergeTier tree env = mergeTier tree' env' := by
  funext d tier
  have hmem : env'.tierFile tier ∈ env'.optionSources := by
    refine List.mem_append_left _ (List.mem_map_of_mem ?_)
    cases tier <;> decide
  obtain ⟨hfile, htext⟩ := h _ hmem
  unfold mergeTier
  rw [hsettings.tierFile]
  dsimp only
  rw [hfile]
  split
  · rename_i hpresent
    rw [ofFile_congr (htext hpresent)]
  · rfl

/-- Compiling depends on its settings and on the sources that are there. -/
theorem compile_congr (hsettings : SameSettings env env')
    (h : SameFiles tree tree' env'.optionSources)
    (htable : tree'.isFile env'.tableLocationsFile = true) :
    compile tree env = compile tree' env' := by
  have hmem : env'.tableLocationsFile ∈ env'.optionSources :=
    List.mem_append_right _ (List.mem_singleton.2 rfl)
  have henv : mergeEnvironment env = mergeEnvironment env' := by
    funext d
    rw [mergeEnvironment, mergeEnvironment, hsettings.company, hsettings.language]
  unfold compile
  rw [mergeTier_congr hsettings h, hsettings.platform, hsettings.tableLocationsFile,
    ofFile_congr ((h _ hmem).2 htable), henv]

end Congr

end Dictionary

end SqlBuild
