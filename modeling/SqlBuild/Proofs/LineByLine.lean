import SqlBuild.Proofs.Locality
import SqlBuild.Proofs.Precedence
import SqlBuild.Proofs.RecordForm
import SqlBuild.Run.Script

/-!
# Scripts are resolved line by line

The names of an option file are words (`unbroken_onLine`), so no name that is compiled has white
space in it, and a text may be cut at any white space and resolved piece by piece. The token of a
sequence has no line feed either. So a script that is composed of resolved lines is its whole text
resolved (`compose_eq`).
-/

namespace SqlBuild

namespace Text

variable {p r : Text} {c : Char}

/-- No occurrence reaches over a character that does not stand in what is looked for. -/
theorem startsWith_append_cons (b : Text) : ∀ {p : Text}, c ∉ p → ∀ a,
    startsWith (a ++ c :: b) p = startsWith a p
  | [], _, a => by simp [startsWith]
  | x :: p, h, [] => by
    have hx : x ≠ c := fun heq => h (heq ▸ List.mem_cons_self)
    simp [startsWith, List.isPrefixOf, hx]
  | x :: p, h, y :: a => by
    have ih : startsWith (a ++ c :: b) p = startsWith a p :=
      startsWith_append_cons b (fun hm => h (List.mem_cons_of_mem _ hm)) a
    simp only [startsWith, List.cons_append, List.isPrefixOf] at ih ⊢
    rw [ih]

theorem replaceFrom_append_cons (hp : p ≠ []) (hc : c ∉ p) (b : Text) :
    ∀ (a : Text) (k : Nat), k ≤ a.length →
      replaceFrom p r k (a ++ c :: b) = replaceFrom p r k a ++ c :: replaceFrom p r 0 b
  | [], 0, _ => by
    have hstart : startsWith ([] ++ c :: b) p = false := by
      rw [startsWith_append_cons b hc]
      rcases p with _ | ⟨x, p⟩
      · exact absurd rfl hp
      · rfl
    rw [List.nil_append] at hstart ⊢
    simp [replaceFrom, hstart]
  | x :: a, k + 1, hk => by
    rw [List.cons_append, replaceFrom, replaceFrom]
    exact replaceFrom_append_cons hp hc b a k (Nat.le_of_succ_le_succ hk)
  | x :: a, 0, _ => by
    have hstart := startsWith_append_cons b hc (x :: a)
    rw [List.cons_append] at hstart ⊢
    rw [replaceFrom, replaceFrom, hstart]
    split
    · rename_i hfound
      have hlen : p.length ≤ (x :: a).length := (List.isPrefixOf_iff_prefix.1 hfound).length_le
      rw [replaceFrom_append_cons hp hc b a _ (by rw [List.length_cons] at hlen; omega),
        List.append_assoc]
    · rw [replaceFrom_append_cons hp hc b a 0 (Nat.zero_le _)]
      rfl

theorem replace_append_cons (hc : c ∉ p) (a b : Text) :
    replace p r (a ++ c :: b) = replace p r a ++ c :: replace p r b := by
  unfold replace
  split
  · rfl
  · exact replaceFrom_append_cons ‹_› hc b a 0 (Nat.zero_le _)

section

variable {f : Text → Text} (hf : ∀ a b, f (a ++ '\n' :: b) = f a ++ '\n' :: f b)

include hf

theorem apply_unlines (hnil : f [] = []) : ∀ lines : List Text,
    f (unlines lines) = unlines (lines.map f)
  | [] => hnil
  | line :: lines => by
    have ih := apply_unlines hnil lines
    simp only [unlines, List.map_cons, List.flatMap_cons, List.append_assoc,
      List.singleton_append, hf] at ih ⊢
    rw [ih]

/-- What works on the lines of a text alike works on them one by one. -/
theorem join_map_splitOn (t : Text) : join "\n" ((t.splitOn '\n').map f) = f t := by
  have hjoin : ∀ (lines : List Text) (line : Text),
      join "\n" ((line :: lines).map f) = f (join "\n" (line :: lines)) := by
    intro lines
    induction lines with
    | nil => simp [join]
    | cons next lines ih =>
      intro line
      have hsep : ∀ u v : Text, ∀ rest : List Text,
          join "\n" (u :: v :: rest) = u ++ '\n' :: join "\n" (v :: rest) := by
        intro u v rest
        simp [join, List.intercalate, List.intersperse]
      rw [List.map_cons, List.map_cons, hsep, hsep, hf, ← ih next, List.map_cons]
  have hsplit : join "\n" (t.splitOn '\n') = t := List.intercalate_splitOn '\n'
  obtain ⟨line, lines, hlines⟩ := List.exists_cons_of_ne_nil (List.splitOn_ne_nil '\n' t)
  rw [hlines] at hsplit ⊢
  rw [hjoin, hsplit]

end

end Text

namespace Directive

/-- The names that a directive records are words. -/
def Unbroken : Directive → Prop
  | value name _ _ _ => Text.Unbroken name
  | conditional name _ _ _ => Text.Unbroken name
  | table name _ _ => Text.Unbroken name

variable {body : Text} {directive : Directive}

theorem unbroken_firstWord (t : Text) : Text.Unbroken (Text.firstWord t).1 := by
  intro c hc
  unfold Text.firstWord at hc
  rw [List.span_eq_takeWhile_dropWhile] at hc
  simpa using List.mem_takeWhile_imp hc

theorem unbroken_ofValueBody {dynamic : Bool} (h : ofValueBody dynamic body = .ok directive) :
    directive.Unbroken := by
  unfold ofValueBody at h
  split at h
  · cases h
  · split at h
    · cases h
    · dsimp only at h
      split at h
      · cases h
      · rename_i hname
        obtain rfl := Except.ok.inj h
        exact Text.unbroken_iff.2 (by simpa using (not_or.1 hname).2)

theorem unbroken_ofConditionalBody {dynamic : Bool}
    (h : ofConditionalBody dynamic body = .ok directive) : directive.Unbroken := by
  have hbare : Text.Unbroken (bareName (Text.firstWord body).1) :=
    fun c hc => unbroken_firstWord body c (bareName_subset _ hc)
  unfold ofConditionalBody at h
  dsimp only at h
  split at h
  · obtain rfl := Except.ok.inj h
    exact hbare
  · split at h
    · obtain rfl := Except.ok.inj h
      exact hbare
    · cases h

theorem unbroken_ofTableBody (h : ofTableBody body = .ok directive) : directive.Unbroken := by
  unfold ofTableBody at h
  dsimp only at h
  split at h
  · cases h
  · obtain rfl := Except.ok.inj h
    exact unbroken_firstWord body

theorem unbroken_onLine {line : Text} (h : onLine? line = some directive) :
    directive.Unbroken := by
  have hline : ofLine? line = .ok (some directive) := by
    unfold onLine? at h
    split at h
    · rw [‹ofLine? line = _›, h]
    · cases h
  unfold ofLine? at hline
  split at hline
  · exact unbroken_ofTableBody (ok_of_map hline)
  · exact unbroken_ofValueBody (ok_of_map hline)
  · exact unbroken_ofValueBody (ok_of_map hline)
  · exact unbroken_ofConditionalBody (ok_of_map hline)
  · exact unbroken_ofConditionalBody (ok_of_map hline)
  · cases hline

end Directive

namespace Assignment

/-- The names that are assigned to are words. -/
def Unbroken (assignments : List Assignment) : Prop := ∀ a ∈ assignments, Text.Unbroken a.1

theorem Unbroken.append {before after : List Assignment} (h : Unbroken before)
    (h' : Unbroken after) : Unbroken (before ++ after) := by
  intro a ha
  rcases List.mem_append.1 ha with ha | ha
  · exact h a ha
  · exact h' a ha

theorem unbroken_recorded {assignments : List Assignment} (h : Unbroken assignments) :
    Unbroken (recorded assignments) :=
  fun a ha => h a (List.mem_of_mem_filter ha)

theorem unbroken_placeholder {name : Text} (h : Text.Unbroken name) :
    Text.Unbroken (placeholder name) := by
  have hbare : Text.Unbroken (bareName name) := fun c hc => h c (bareName_subset name hc)
  exact Text.Unbroken.append (s := '&' :: bareName name)
    (List.forall_mem_cons.2 ⟨by decide, hbare⟩) (by decide)

theorem unbroken_ofConditional {name : Text} (h : Text.Unbroken name) (enabled : Bool) :
    Unbroken (ofConditional name enabled) := by
  have hmark : ∀ {opening : Text}, Text.Unbroken opening → Text.Unbroken (opening ++ name ++ "&") :=
    fun hopening => (hopening.append h).append (by decide)
  unfold ofConditional
  split
  · simp only [Unbroken, List.forall_mem_cons, List.not_mem_nil, false_implies, implies_true,
      and_true]
    exact ⟨hmark (by decide), hmark (by decide), hmark (by decide), hmark (by decide)⟩
  · simp [Unbroken]

theorem unbroken_ofDirective {directive : Directive} (h : directive.Unbroken) :
    Unbroken (ofDirective directive) := by
  unfold ofDirective
  split
  · refine unbroken_recorded ?_
    simpa [Unbroken] using unbroken_placeholder h
  · exact unbroken_ofConditional h _
  · simp [Unbroken]

theorem unbroken_ofMapping (before : List Assignment) {directive : Directive}
    (h : directive.Unbroken) : Unbroken (ofMapping before directive) := by
  unfold ofMapping
  split
  · refine unbroken_recorded ?_
    simp only [Unbroken, List.forall_mem_cons, List.not_mem_nil, false_implies, implies_true,
      and_true]
    exact ⟨unbroken_placeholder h,
      (Text.Unbroken.append (s := "&db-") (by decide) h).append (by decide)⟩
  · simp [Unbroken]

theorem unbroken_ofMappings : ∀ {directives : List Directive} (before : List Assignment),
    (∀ directive ∈ directives, directive.Unbroken) → Unbroken (ofMappings before directives)
  | [], _, _ => by simp [ofMappings, Unbroken]
  | directive :: rest, before, h => by
    rw [List.forall_mem_cons] at h
    exact (unbroken_ofMapping before h.1).append (unbroken_ofMappings _ h.2)

end Assignment

theorem Directive.unbroken_ofContent {content : Text} :
    ∀ directive ∈ Directive.ofContent content, directive.Unbroken := by
  intro directive h
  obtain ⟨line, -, hline⟩ := List.mem_filterMap.1 h
  exact Directive.unbroken_onLine hline

theorem Sources.unbroken_assignments (sources : Sources) (env : Environment) :
    Assignment.Unbroken (sources.assignments env) := by
  have htier : ∀ tier, Assignment.Unbroken (sources.ofTier tier) := by
    intro tier a ha
    obtain ⟨directive, hmem, ha⟩ := List.mem_flatMap.1 ha
    exact Assignment.unbroken_ofDirective (Directive.unbroken_ofContent directive hmem) a ha
  have hplatform : Assignment.Unbroken (Assignment.ofPlatform env.platform) :=
    (Assignment.unbroken_ofConditional (by decide) _).append
      (Assignment.unbroken_ofConditional (by decide) _)
  have hsettings : Assignment.Unbroken (Assignment.ofSettings env) := by
    simp only [Assignment.Unbroken, Assignment.ofSettings, List.forall_mem_cons, List.not_mem_nil,
      false_implies, implies_true, and_true]
    exact ⟨by decide, by decide⟩
  have hbefore : Assignment.Unbroken (sources.beforeTables env) :=
    (((hplatform.append (htier .default)).append (htier .company)).append (htier .profile)).append
      hsettings
  exact hbefore.append (Assignment.unbroken_ofMappings _ Directive.unbroken_ofContent)

namespace Dictionary

variable {d : Dictionary} {c : Char}

/-- No name that is compiled has white space in it. -/
theorem unbroken_of_compile {tree : FileTree} {env : Environment}
    (h : (compile tree env).run.value = .ok d) : ∀ e ∈ d.entries, Text.Unbroken e.1 := by
  intro e he
  obtain ⟨sources, hin⟩ := exists_sources h
  obtain ⟨d', hd', hagrees⟩ := exists_compile hin
  obtain rfl := Except.ok.inj (h.symm.trans hd')
  -- The name is looked up with success, so it was assigned to.
  cases hlookup : d.get? e.1 with
  | none => simpa using List.lookup_eq_none_iff.1 hlookup e he
  | some value =>
    rw [hagrees, lastValue] at hlookup
    obtain ⟨before, after, hsplit, -⟩ := List.lookup_eq_some_iff.1 hlookup
    exact sources.unbroken_assignments env (e.1, value) (List.mem_reverse.1 (by simp [hsplit]))

end Dictionary

namespace Context

variable {ctx : Context} {c : Char}

theorem resolve_append_cons (h : ctx.Separates c) (hc : c ≠ '&') (hs : c ∉ sequenceToken)
    (sequence : Option Int) (a b : Text) :
    ctx.resolve (a ++ c :: b) sequence = ctx.resolve a sequence ++ c :: ctx.resolve b sequence := by
  by_cases hraw : ctx.env.rawMode = true
  · simp [resolve, hraw]
  · rcases sequence with _ | n
    · exact resolveWord_append_cons h hc a b
    · have hword : ∀ t, ctx.resolve t (some n) =
          ctx.resolveWord (Text.replace sequenceToken (Text.ofInt n) t) := by
        intro t
        simp [resolveWord, resolve, hraw, OptionSet.resolve]
      rw [hword, hword, hword, Text.replace_append_cons hs, resolveWord_append_cons h hc]

theorem resolve_nil (ctx : Context) (sequence : Option Int) : ctx.resolve [] sequence = [] := by
  have hword : ctx.options.resolveWord [] = [] := by
    unfold OptionSet.resolveWord
    split
    · exact Dictionary.resolve_eq_self (by simp)
    · rfl
  have hreplace : ∀ p r : Text, Text.replace p r [] = [] := by
    intro p r
    simp [Text.replace, Text.replaceFrom]
  unfold resolve OptionSet.resolve
  split
  · rfl
  · rcases sequence with _ | n
    · exact hword
    · simp only [hreplace, hword]

end Context

/-- A script without an audit entry is the text of its lines, resolved as a whole. -/
theorem Script.compose_eq {ctx : Context} (h : ctx.Separates '\n') (content : Text)
    (sequence : Option Int) : compose ctx content none sequence =
      close (ctx.resolve (Text.unlines (body content)) sequence) := by
  have hlocal := Context.resolve_append_cons h (by decide) (by decide) sequence
  rw [Text.apply_unlines (f := (ctx.resolve · sequence)) hlocal (ctx.resolve_nil sequence)]
  rfl

namespace Dictionary

/-- A text is resolved piece by piece: at any character that stands in no name, which every blank is
for a dictionary that was compiled, and a line feed for one that was read from records. So resolving
the lines of a text, and those of a script, is resolving all of it. -/
theorem resolve_piecewise (d : Dictionary) :
    (∀ c, c ≠ '&' → (∀ e ∈ d.entries, c ∉ e.1) →
      ∀ a b, d.resolve (a ++ c :: b) = d.resolve a ++ c :: d.resolve b) ∧
    (∀ tree env, (compile tree env).run.value = .ok d →
      ∀ c, isBlank c = true → c ≠ '&' ∧ ∀ e ∈ d.entries, c ∉ e.1) ∧
    (∀ text, ofRecords? text = .ok d → ∀ e ∈ d.entries, '\n' ∉ e.1) ∧
    ((∀ e ∈ d.entries, '\n' ∉ e.1) →
      (∀ t, Text.join "\n" ((t.splitOn '\n').map d.resolve) = d.resolve t) ∧
      ∀ ctx : Context, ctx.options.dictionary = some d → ∀ content sequence,
        Script.compose ctx content none sequence =
          Script.close (ctx.resolve (Text.unlines (Script.body content)) sequence)) := by
  refine ⟨fun c hc hd => resolve_append_cons hc hd, ?_, ?_, ?_⟩
  · intro tree env h c hc
    refine ⟨fun heq => ?_, fun e he hm => ?_⟩
    · subst heq
      exact absurd hc (by decide)
    · have hword := unbroken_of_compile h e he c hm
      rw [hc] at hword
      cases hword
  · intro text h e he
    exact ((settled_of_ofRecords h).records e he).nameLine
  · intro hd
    refine ⟨Text.join_map_splitOn (resolve_append_cons (by decide) hd), ?_⟩
    intro ctx hctx content sequence
    refine Script.compose_eq ?_ content sequence
    intro d' hd' e he
    obtain rfl := Option.some.inj (hctx.symm.trans hd')
    exact hd e he

/-- A `&` that is left open before a tab, and a script with a value in each of its lines. -/
theorem resolve_piecewise_acme : ∃ d, (compile acmeTree acmeDev).run.value = .ok d ∧
    d.resolve ("x &dbtbl" ++ '\t' :: "&cmpy&,&users&&") =
      "x &dbtbl" ++ '\t' :: "acme,sbntest..users&" ∧
    ∀ ctx : Context, ctx.options.dictionary = some d →
      Script.compose ctx "use &dbtbl&\r\n@sequence@ &\nexit\n" none (some 7) =
        Script.close (ctx.resolve "use &dbtbl&\n@sequence@ &\n" (some 7)) := by
  obtain ⟨d, hd, hagrees⟩ := exists_compile acmeSources_isIn
  obtain ⟨hcut, hblank, -, hlines⟩ := resolve_piecewise d
  obtain ⟨htab, htabNames⟩ := hblank acmeTree acmeDev hd '\t' (by decide)
  obtain ⟨-, hfeedNames⟩ := hblank acmeTree acmeDev hd '\n' (by decide)
  refine ⟨d, hd, ?_, fun ctx hctx => (hlines hfeedNames).2 ctx hctx _ (some 7)⟩
  rw [hcut '\t' htab htabNames, hagrees.resolve_eq, hagrees.resolve_eq]
  decide +kernel

end Dictionary

end SqlBuild
