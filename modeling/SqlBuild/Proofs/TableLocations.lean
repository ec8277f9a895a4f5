import SqlBuild.Proofs.Delimiters
import SqlBuild.Proofs.Encoding
import SqlBuild.Proofs.LineByLine
import SqlBuild.Run.Compiler

/-!
# The database of a table

The server is told the database of every table that is mapped, and SQL text reaches a table through
its placeholder. Both come from the database written on the line of the mapping, but the placeholder
was recorded when that line was read, with what the dictionary held by then, and the server is told
what the finished dictionary says. What resolving asks for is all that it depends on
(`Dictionary.resolve_congr_asked`), so the two agree where no later line gives another value to what
was asked for (`Metadata.locations_used`).
-/

namespace SqlBuild

namespace FileTree

variable {tree : FileTree} {path : Text}

theorem readText_of_find {content : Text} {modified : Int}
    (h : tree.find path = .ok (.file (Utf8.encode content) modified)) :
    tree.readText path = .ok content := by
  simp only [readText, read, h, bind, Except.bind, Utf8.decode_encode]

theorem readText_of_missing {cause : IoError} (h : tree.find path = .error cause) :
    tree.readText path = .error cause := by
  simp only [readText, read, h, bind, Except.bind]

end FileTree

namespace Metadata

theorem rows_of_tableLocationsPlan {files : FileTree} {env : Environment} {resolve : Text → Text}
    {plan : CompilePlan} {content : Text}
    (htext : files.readText env.tableLocationsFile = .ok content)
    (h : (tableLocationsPlan files env resolve).run.value = .ok plan) :
    plan.loads = [⟨"&w_table_locations&",
      (Directive.ofContent content).filterMap (locationRow? resolve)⟩] := by
  obtain ⟨sources, hsources, hcontents⟩ := SourceDirective.ofFile_of_readText htext
  unfold tableLocationsPlan at h
  dsimp only at h
  split at h
  · have hdirectives : (directives files env.tableLocationsFile).run.value =
        .ok (Directive.ofContent content) := by
      have hread : (liftM (SourceDirective.ofFile files env.tableLocationsFile).run :
          Planning (Except OptionsError (List SourceDirective))).run.value = .ok (.ok sources) :=
        congrArg Except.ok hsources
      rw [directives, ExceptT.run_bind, Noted.value_bind, hread, ← hcontents]
      rfl
    rw [ExceptT.run_bind, Noted.value_bind, hdirectives] at h
    obtain rfl := Except.ok.inj h
    rfl
  · cases h

end Metadata

/-- The table that a directive maps. -/
def Directive.table? : Directive → Option Text
  | .table name _ _ => some name
  | _ => none

namespace Sources

/-- The tables that are mapped, in their order. -/
def tableNames (sources : Sources) : List Text :=
  (Directive.ofContent sources.tables).filterMap Directive.table?

/-- What is assigned before a line of the mappings that `earlier` stands before. -/
def madeAt (sources : Sources) (env : Environment) (earlier : List Directive) : List Assignment :=
  sources.beforeTables env ++ Assignment.ofMappings (sources.beforeTables env) earlier

/-- The dictionary such a line is read with. -/
def dictionaryAt (sources : Sources) (env : Environment) (earlier : List Directive) : Dictionary :=
  ⟨(sources.madeAt env earlier).reverse⟩

end Sources

/-- Tables whose mappings do not meddle with one another: each is mapped once, under a name that can
be recorded, and not under what a later one calls its database. -/
structure TablesApart (names : List Text) : Prop where
  free : ∀ name ∈ names, '&' ∉ name
  fitting : ∀ name ∈ names, Dictionary.fits (Dictionary.databasePlaceholder name) = true
  once : names.Nodup
  unshadowed : names.Pairwise fun (name later : Text) => name ≠ "db-" ++ later

namespace Assignment

theorem ofMappings_append : ∀ (before : List Assignment) (xs ys : List Directive),
    ofMappings before (xs ++ ys) =
      ofMappings before xs ++ ofMappings (before ++ ofMappings before xs) ys
  | before, [], ys => by simp [ofMappings]
  | before, x :: xs, ys => by
    rw [List.cons_append, ofMappings, ofMappings_append, ofMappings, List.append_assoc,
      List.append_assoc]

theorem lastValue_recorded {assignments : List Assignment} {name : Text}
    (h : ∀ a ∈ assignments, a.1 ≠ name) : lastValue (recorded assignments) name = none := by
  refine List.lookup_eq_none_iff.2 fun a ha => bne_iff_ne.2 fun heq => ?_
  exact h a (List.mem_of_mem_filter (List.mem_reverse.1 ha)) heq.symm

theorem lastValue_ofMappings {name : Text} : ∀ {directives : List Directive}
    (before : List Assignment), (∀ table database description,
      Directive.table table database description ∈ directives →
        placeholder table ≠ name ∧ Dictionary.databasePlaceholder table ≠ name) →
      lastValue (ofMappings before directives) name = none
  | [], _, _ => rfl
  | directive :: rest, before, h => by
    have hrest : lastValue (ofMappings (before ++ ofMapping before directive) rest) name = none :=
      lastValue_ofMappings _ fun table database description hmem =>
        h table database description (List.mem_cons_of_mem _ hmem)
    have hfirst : lastValue (ofMapping before directive) name = none := by
      cases directive with
      | table table database description =>
        obtain ⟨htable, hdatabase⟩ := h table database description List.mem_cons_self
        refine lastValue_recorded ?_
        simpa [Dictionary.databasePlaceholder] using ⟨htable, hdatabase⟩
      | _ => rfl
    rw [ofMappings, lastValue_append, hrest, hfirst]
    rfl

end Assignment

namespace Dictionary

theorem databasePlaceholder_ne {name : Text} (hfree : '&' ∉ name) (hname : Text.Unbroken name) :
    databasePlaceholder name ≠ placeholder name := by
  rw [placeholder_eq hfree (Text.trim_of_unbroken hname)]
  intro h
  have hlength := congrArg List.length h
  simp [databasePlaceholder, delimited] at hlength
  omega

theorem fits_of_databasePlaceholder {name : Text} (h : fits (databasePlaceholder name) = true) :
    fits (delimited name) = true := by
  cases hfits : fits (delimited name) with
  | true => rfl
  | false => exact absurd h (by rw [fits_databasePlaceholder hfits le_rfl]; decide)

/-- The last value of the table's placeholder comes from its own line. -/
theorem get?_table {d : Dictionary} {before : List Assignment} {later : List Directive}
    {table database description : Text}
    (hd : d.Agrees (before ++ Assignment.ofMappings before
      (.table table database description :: later)))
    (hne : databasePlaceholder table ≠ placeholder table) (hfits : fits (placeholder table) = true)
    (hlater : ∀ name database description, Directive.table name database description ∈ later →
      placeholder name ≠ placeholder table ∧ databasePlaceholder name ≠ placeholder table) :
    d.get? (placeholder table) =
      some (Dictionary.resolve ⟨before.reverse⟩ database ++ ".." ++ table) := by
  have hparts : ∀ a b : Assignment, Assignment.recorded [a, b] =
      Assignment.recorded [a] ++ Assignment.recorded [b] := fun a b => List.filter_append [a] [b]
  have hown : lastValue (Assignment.ofMapping before (.table table database description))
      (placeholder table) =
        some (Dictionary.resolve ⟨before.reverse⟩ database ++ ".." ++ table) := by
    have hother : lastValue (Assignment.recorded
        [("&db-" ++ table ++ "&", Dictionary.resolve ⟨before.reverse⟩ database)])
        (placeholder table) = none := by
      refine Assignment.lastValue_recorded fun a ha => ?_
      rw [List.mem_singleton.1 ha]
      exact hne
    rw [Assignment.ofMapping, hparts, lastValue_append, hother, Option.none_or]
    simp [Assignment.recorded, hfits, lastValue]
  rw [hd, Assignment.ofMappings, lastValue_append, lastValue_append,
    Assignment.lastValue_ofMappings _ hlater, Option.none_or, hown]
  rfl

/-- The placeholder of a table stands for what the database on its line was resolved to there. -/
theorem resolve_table {d : Dictionary} {name x : Text} (hfree : '&' ∉ name)
    (hname : Text.Unbroken name)
    (hget : d.get? (placeholder name) = some (x ++ ".." ++ name)) :
    d.resolve (placeholder name) = d.resolveWithin 9 x ++ ".." ++ name := by
  have hplaceholder := placeholder_eq hfree (Text.trim_of_unbroken hname)
  rw [hplaceholder] at hget ⊢
  have hfirst : d.pass (delimited name) = x ++ (".." ++ name) := by
    rw [delimited, pass_placeholder hfree hget, pass_eq_self List.not_mem_nil]
    simp
  have hbehind : '&' ∉ ".." ++ name := by
    intro h
    exact (List.mem_append.1 h).elim (by decide) hfree
  have hnine := iterate_enclosed (d := d) (List.not_mem_nil (a := '&')) hbehind 9 x
  rw [List.nil_append, List.nil_append] at hnine
  calc d.resolve (delimited name)
      = d.pass^[9] (d.pass (delimited name)) := resolveWithin_eq_iterate maxPasses _
    _ = d.resolveWithin 9 x ++ (".." ++ name) := by
      rw [hfirst, hnine, resolveWithin_eq_iterate]
    _ = d.resolveWithin 9 x ++ ".." ++ name := (List.append_assoc _ _ _).symm

/-- A placeholder that has no value stays as it is. -/
theorem resolve_undefined {d : Dictionary} {name : Text} (hfree : '&' ∉ name)
    (hget : d.get? (delimited name) = none) : d.resolve (delimited name) = delimited name := by
  have hopen : d.opened? (name ++ ['&']) = none := by
    rw [opened?_of_closed? (closed?_eq_some.2 ⟨hfree, [], rfl⟩)]
    exact congrArg (Option.map _) hget
  have hbehind : d.passFrom 0 (name ++ ['&']) = name ++ ['&'] := by
    have hsplit := pass_append (d := d) (.of_free hfree) ['&']
    rw [pass_eq_self hfree] at hsplit
    exact hsplit
  have hpass : d.pass (delimited name) = delimited name := by
    rw [delimited, List.cons_append, pass, passFrom, if_pos rfl, hopen]
    exact congrArg ('&' :: ·) hbehind
  rw [resolve, resolveWithin_eq_iterate, Function.iterate_fixed hpass]

end Dictionary

theorem Sources.agrees_at {sources : Sources} {tree : FileTree} {env : Environment} {d : Dictionary}
    (hin : sources.IsIn tree env) (hd : (Dictionary.compile tree env).run.value = .ok d)
    {earlier behind : List Directive}
    (hlines : Directive.ofContent sources.tables = earlier ++ behind) :
    d.Agrees (sources.madeAt env earlier ++
      Assignment.ofMappings (sources.madeAt env earlier) behind) := by
  obtain ⟨d', hd', hagrees⟩ := Dictionary.exists_compile hin
  obtain rfl := Except.ok.inj (hd.symm.trans hd')
  rwa [Sources.assignments, Sources.ofTables, hlines, Assignment.ofMappings_append,
    ← List.append_assoc] at hagrees

namespace TablesApart

variable {content : Text} {earlier later : List Directive} {table database description : Text}

theorem placeholder_eq (h : TablesApart ((Directive.ofContent content).filterMap Directive.table?))
    (hmem : Directive.table table database description ∈ Directive.ofContent content) :
    placeholder table = delimited table := by
  have hfree := h.free table (List.mem_filterMap.2 ⟨_, hmem, rfl⟩)
  exact Dictionary.placeholder_eq hfree
    (Text.trim_of_unbroken (Directive.unbroken_ofContent _ hmem))

/-- Later lines leave the placeholder of a table alone. -/
theorem ne_of_later (h : TablesApart ((Directive.ofContent content).filterMap Directive.table?))
    (hlines : Directive.ofContent content = earlier ++ .table table database description :: later) :
    ∀ name database description, Directive.table name database description ∈ later →
      placeholder name ≠ placeholder table ∧
        Dictionary.databasePlaceholder name ≠ placeholder table := by
  intro name database' description' hmem
  have hnames : (Directive.ofContent content).filterMap Directive.table? =
      earlier.filterMap Directive.table? ++ table :: later.filterMap Directive.table? := by
    rw [hlines, List.filterMap_append]
    rfl
  have hlater : name ∈ later.filterMap Directive.table? := List.mem_filterMap.2 ⟨_, hmem, rfl⟩
  have honce := h.once
  have hunshadowed := h.unshadowed
  rw [hnames] at honce hunshadowed
  have hne : table ≠ name := by
    rintro rfl
    exact (List.nodup_cons.1 (List.nodup_append.1 honce).2.1).1 hlater
  have hdatabase : table ≠ "db-" ++ name :=
    (List.pairwise_cons.1 (List.pairwise_append.1 hunshadowed).2.1).1 name hlater
  have hin : ∀ directive ∈ Directive.table table database description :: later,
      directive ∈ Directive.ofContent content := by
    intro directive hd
    rw [hlines]
    exact List.mem_append_right _ hd
  rw [h.placeholder_eq (hin _ List.mem_cons_self),
    h.placeholder_eq (hin _ (List.mem_cons_of_mem _ hmem))]
  refine ⟨fun heq => hne ?_, fun heq => hdatabase ?_⟩
  · exact (List.append_cancel_right (List.cons.inj heq).2).symm
  · exact (List.append_cancel_right (List.cons.inj heq).2).symm

end TablesApart

namespace Metadata

/-- SQL text reaches the table in the database that the server is told. -/
def Located (ctx : Context) (table database : Text) : Prop :=
  ctx.resolveWord (delimited table) = ctx.resolveWord database ++ ".." ++ table

variable {ctx : Context} {sources : Sources} {d : Dictionary} {plan : CompilePlan}

/-- A table is where the server is told it is exactly when nine passes of the finished dictionary
lead from what its database was resolved to on its own line to what it is resolved to in the end. So
it is when nothing that was asked for on its line has another value in the end; and a database whose
name is defined later has to be resolved by nine passes. -/
theorem locations_used (hin : sources.IsIn ctx.files ctx.env) (hraw : ctx.env.rawMode = false)
    (hd : (Dictionary.compile ctx.files ctx.env).run.value = .ok d)
    (hset : ctx.options.dictionary = some d)
    (hplan : (CompilerKind.tableLocations.plan ctx).run.value = .ok plan)
    (hapart : TablesApart sources.tableNames) :
    plan.loads = [⟨"&w_table_locations&",
      (Directive.ofContent sources.tables).filterMap (locationRow? ctx.resolveWord)⟩] ∧
    ∀ earlier table database description later,
      Directive.ofContent sources.tables =
        earlier ++ .table table database description :: later →
      (Located ctx table database ↔ d.resolveWithin 9
        ((sources.dictionaryAt ctx.env earlier).resolve database) = ctx.resolveWord database) ∧
      ('&' ∉ ctx.resolveWord database →
        (∀ token ∈ (sources.dictionaryAt ctx.env earlier).asked maxPasses database,
          d.get? token = (sources.dictionaryAt ctx.env earlier).get? token) →
        Located ctx table database) ∧
      ∀ name, '&' ∉ name → database = delimited name →
        (sources.dictionaryAt ctx.env earlier).get? database = none →
        (Located ctx table database ↔ d.resolveWithin 9 database = ctx.resolveWord database) := by
  have hword : ∀ t, ctx.resolveWord t = d.resolve t := by
    intro t
    simp [Context.resolveWord, Context.resolve, hraw, OptionSet.resolve, OptionSet.resolveWord,
      hset]
  refine ⟨rows_of_tableLocationsPlan hin.tables hplan, ?_⟩
  intro earlier table database description later hlines
  have hmem : Directive.table table database description ∈ Directive.ofContent sources.tables := by
    rw [hlines]
    simp
  have htable : table ∈ sources.tableNames := List.mem_filterMap.2 ⟨_, hmem, rfl⟩
  have hname : Text.Unbroken table := Directive.unbroken_ofContent _ hmem
  have hplaceholder : placeholder table = delimited table := hapart.placeholder_eq hmem
  have hfits : Dictionary.fits (placeholder table) = true := by
    rw [hplaceholder]
    exact Dictionary.fits_of_databasePlaceholder (hapart.fitting table htable)
  have hexact : Located ctx table database ↔ d.resolveWithin 9
      ((sources.dictionaryAt ctx.env earlier).resolve database) = ctx.resolveWord database := by
    have hvalue := Dictionary.get?_table (Sources.agrees_at hin hd hlines)
      (Dictionary.databasePlaceholder_ne (hapart.free table htable) hname) hfits
      (hapart.ne_of_later hlines)
    have hresolve := Dictionary.resolve_table (hapart.free table htable) hname hvalue
    rw [hplaceholder] at hresolve
    rw [Located, hword, hresolve, List.append_assoc, List.append_assoc,
      List.append_left_inj]
    rfl
  refine ⟨hexact, fun hfree hkept => ?_, ?_⟩
  · have hsame := Dictionary.resolve_congr_asked hkept
    rw [hword] at hfree
    rw [hexact, hword, ← hsame, Dictionary.resolveWithin_eq_iterate,
      Function.iterate_fixed (Dictionary.pass_eq_self hfree)]
  · rintro name hfree rfl hget
    rw [hexact, Dictionary.resolve_undefined hfree hget]

/-- A run of the company with a finished dictionary. -/
def acmeContext (files : FileTree) (d : Dictionary) : Context where
  env := Dictionary.acmeDev
  options := { env := Dictionary.acmeDev, maxAge := 0, dictionary := some d }
  files

/-- The option files of a company and its table mappings. -/
def acmeFiles (options tables : Text) : FileTree where
  entries :=
    let file (name content : Text) : Path × Node :=
      (["sql", "CSS", "Setup", name], .file (Utf8.encode content) 0)
    [file "options.acme" options, file "table_locations" tables]

/-- A database that is an option, one that an earlier line names and one that a later line does. -/
def linkedSources : Sources where
  tier
    | .company => some "v: m <<main>>\nv: alias <<&m&>>\n"
    | _ => none
  tables := "-> early &db-users&\n-> users &alias& accounts\n-> orders &db-users&\n"

def linkedFiles : FileTree :=
  acmeFiles ((linkedSources.tier .company).getD []) linkedSources.tables

theorem linkedSources_isIn : linkedSources.IsIn linkedFiles Dictionary.acmeDev where
  tier
    | .default => rfl
    | .company => ⟨rfl, FileTree.readText_of_find rfl⟩
    | .profile => rfl
  tables := FileTree.readText_of_find rfl

theorem locations_used_linked : ∃ d plan,
    (Dictionary.compile linkedFiles Dictionary.acmeDev).run.value = .ok d ∧
      (CompilerKind.tableLocations.plan (acmeContext linkedFiles d)).run.value = .ok plan ∧
      TablesApart linkedSources.tableNames ∧
      plan.loads = [⟨"&w_table_locations&", [["early", "&db-users&", "main", []],
        ["users", "&alias&", "main", "accounts"], ["orders", "&db-users&", "main", []]]⟩] ∧
      Located (acmeContext linkedFiles d) "early" "&db-users&" ∧
      Located (acmeContext linkedFiles d) "users" "&alias&" ∧
      Located (acmeContext linkedFiles d) "orders" "&db-users&" := by
  obtain ⟨d, hd, hagrees⟩ := Dictionary.exists_compile linkedSources_isIn
  have hplans : (Dictionary.compile linkedFiles Dictionary.acmeDev).run.value.toOption.map
      (fun d => (CompilerKind.tableLocations.plan
        (acmeContext linkedFiles d)).run.value.toOption.isSome) = some true := by decide +kernel
  rw [hd] at hplans
  obtain ⟨plan, hplan⟩ : ∃ plan, (CompilerKind.tableLocations.plan
      (acmeContext linkedFiles d)).run.value = .ok plan := by
    cases hvalue : (CompilerKind.tableLocations.plan (acmeContext linkedFiles d)).run.value with
    | ok plan => exact ⟨plan, rfl⟩
    | error e => simp [Except.toOption, hvalue] at hplans
  have hnames : linkedSources.tableNames = ["early", "users", "orders"] := by decide +kernel
  have hapart : TablesApart linkedSources.tableNames := by
    rw [hnames]
    exact ⟨by decide, by decide, by decide, by decide⟩
  obtain ⟨hloads, hlines⟩ := @locations_used (acmeContext linkedFiles d) linkedSources d plan
    linkedSources_isIn rfl hd rfl hplan hapart
  have hword : (acmeContext linkedFiles d).resolveWord =
      Dictionary.resolve ⟨(linkedSources.assignments Dictionary.acmeDev).reverse⟩ :=
    funext hagrees.resolve_eq
  have henv : (acmeContext linkedFiles d).env = Dictionary.acmeDev := rfl
  rw [henv] at hlines
  have hget : d.get? = lastValue (linkedSources.assignments Dictionary.acmeDev) := funext hagrees
  refine ⟨d, plan, hd, hplan, hapart, ?_, ?_, ?_, ?_⟩
  · rw [hloads, hword]
    decide +kernel
  · refine ((hlines [] "early" "&db-users&" [] [.table "users" "&alias&" "accounts",
      .table "orders" "&db-users&" []] (by decide +kernel)).2.2 "db-users" (by decide) (by decide)
        (by decide +kernel)).2 ?_
    rw [hword, Dictionary.resolveWithin_congr hagrees]
    decide +kernel
  · refine (hlines [.table "early" "&db-users&" []] "users" "&alias&" "accounts"
      [.table "orders" "&db-users&" []] (by decide +kernel)).2.1 ?_ ?_
    · rw [hword]
      decide +kernel
    · rw [hget]
      decide +kernel
  · refine (hlines [.table "early" "&db-users&" [], .table "users" "&alias&" "accounts"] "orders"
      "&db-users&" [] [] (by decide +kernel)).2.1 ?_ ?_
    · rw [hword]
      decide +kernel
    · rw [hget]
      decide +kernel

/-- The database that the server is told of a table, and what SQL text reaches the table as. -/
def told (options tables table : Text) : Option (Text × Text) := do
  let files := acmeFiles options tables
  let d ← (Dictionary.compile files Dictionary.acmeDev).run.value.toOption
  let ctx := acmeContext files d
  let plan ← (CompilerKind.tableLocations.plan ctx).run.value.toOption
  let row ← (plan.loads.flatMap (·.rows)).find? (·.head? = some table)
  return (row.getD 2 [], ctx.resolveWord (delimited table))

/-- The tables are mapped once each, under names that can be recorded; still the server is told
another database of one of them than SQL text reaches it in. -/
def Misplaced (options tables table : Text) : Prop :=
  let names := (Directive.ofContent tables).filterMap Directive.table?
  names.Nodup ∧ (∀ name ∈ names, '&' ∉ name ∧
    Dictionary.fits (Dictionary.databasePlaceholder name) = true) ∧
  ∃ database reached, told options tables table = some (database, reached) ∧ '&' ∉ database ∧
    reached ≠ database ++ ".." ++ table

/-- Eleven tables, each in the database of the next one. -/
def chainedTables : Text :=
  "-> t0 &t1&\n-> t1 &t2&\n-> t2 &t3&\n-> t3 &t4&\n-> t4 &t5&\n-> t5 &t6&\n" ++
    "-> t6 &t7&\n-> t7 &t8&\n-> t8 &t9&\n-> t9 &t10&\n-> t10 &m&\n"

/-- An option that a later table gives another value, a table named like the database of a later
one, and tables that come before those they refer to. -/
theorem locations_misplaced :
    Misplaced "v: b <<other>>\nv: m <<main>>\n" "-> a &b&\n-> b &m&\n" "a" ∧
      Misplaced "v: m <<main>>\n" "-> db-x &m&\n-> x &m&\n" "db-x" ∧
      Misplaced "v: m <<main>>\n" chainedTables "t0" := by
  refine ⟨⟨by decide +kernel, by decide +kernel, "main..b", "other..a", ?_⟩,
    ⟨by decide +kernel, by decide +kernel, "main", "main", ?_⟩,
    ⟨by decide +kernel, by decide +kernel, "main..t10..t9..t8..t7..t6..t5..t4..t3..t2..t1",
      "&t10&..t9..t8..t7..t6..t5..t4..t3..t2..t1..t0", ?_⟩⟩
  · decide +kernel
  · decide +kernel
  · decide +kernel

end Metadata

end SqlBuild
