import SqlBuild.Proofs.BuildArguments
import SqlBuild.Proofs.PathSpellings
import SqlBuild.Proofs.Precedence

/-!
# The file a source word names

A build script replaces the marker of the source root in a word and then the placeholders, and does
both again, in the other order, when the file is looked up; of a word typed as a command only the
latter is done. Where no placeholder reaches over a separator the two orders give one path, spelt
with another kind of slash or with empty segments (`Context.KeepsMarked.inEitherOrder`). So a word
names one file either way unless doing it twice makes a difference (`BuildLine.locate_runSql`).
-/

namespace SqlBuild

namespace Reference

/-- A reference with the marker of the source root, and what stands behind the marker. -/
def Marks (reference rest : Text) : Prop :=
  Text.afterIgnoringCase? "$ir" reference = some rest ∧
    (rest = [] ∨ rest.head?.any isSeparator = true)

def Unmarked (reference : Text) : Prop := ∀ rest, ¬ Marks reference rest

/-- The parts of a reference behind its marker. -/
def parts (rest : Text) : List Text := (rest.splitOnP isSeparator).filter (· ≠ [])

section Marker

variable {root reference rest : Text}

theorem expandMarker_of_unmarked (h : Unmarked reference) (root : Text) :
    expandMarker root reference = reference := by
  unfold expandMarker
  split
  · rfl
  · rename_i rest hrest
    exact if_neg fun hbehind => h rest ⟨hrest, hbehind⟩

theorem expandMarker_of_marks (h : Marks reference rest) (root : Text) :
    expandMarker root reference = dropSlashes root ++ trail (parts rest) := by
  unfold expandMarker
  rw [h.1]
  simp only [if_pos h.2]
  cases hparts : (rest.splitOnP isSeparator).filter (· ≠ []) with
  | nil =>
    rw [parts, hparts]
    simp [trail]
  | cons part more =>
    have hjoin : Text.join "/" (part :: more) = part ++ trail more :=
      FileTree.intercalate_cons part more
    rw [if_neg (List.cons_ne_nil _ _), hjoin, parts, hparts, trail_cons]
    simp

theorem not_mem_marker {q : Text} {c : Char} (h : Text.sameIgnoringCase q "$ir" = true)
    (hc : c.toLower ∉ Text.lower "$ir") : c ∉ q := by
  intro hmem
  have hlower : c.toLower ∈ Text.lower q := List.mem_map_of_mem hmem
  rw [Text.lower, Text.sameIgnoringCase_iff.1 h] at hlower
  exact hc hlower

/-- Parts behind a reference give it no marker. -/
theorem Unmarked.append (h : Unmarked reference) (behind : List Text) :
    Unmarked (reference ++ trail behind) := by
  cases behind with
  | nil => simpa [trail] using h
  | cons part behind =>
    rintro rest ⟨hrest, hbehind⟩
    obtain ⟨q, hsplit, hq⟩ := Text.afterIgnoringCase?_eq_some.1 hrest
    have hmarks : ∀ t, reference = q ++ t → (t = [] ∨ t.head?.any isSeparator = true) → False :=
      fun t ht hends => h t ⟨Text.afterIgnoringCase?_eq_some.2 ⟨q, ht, hq⟩, hends⟩
    rcases List.append_eq_append_iff.1 hsplit with ⟨t, hreference, hslash⟩ | ⟨t, hreference, hslash⟩
    · cases t with
      | nil => exact hmarks [] (by simpa using hreference.symm) (.inl rfl)
      | cons c t =>
        obtain rfl : '/' = c := (List.cons.inj hslash).1
        exact absurd (show '/' ∈ q by simp [hreference]) (not_mem_marker hq (by decide))
    · refine hmarks t hreference ?_
      cases t with
      | nil => exact .inl rfl
      | cons c t =>
        rw [hslash] at hbehind
        exact hbehind.imp_left fun h => absurd h (List.cons_ne_nil _ _)

theorem Unmarked.dropSlashes (h : Unmarked root) : Unmarked (dropSlashes root) := by
  rintro rest ⟨hrest, hends⟩
  obtain ⟨q, hsplit, hq⟩ := Text.afterIgnoringCase?_eq_some.1 hrest
  obtain ⟨slashes, hroot, hslashes⟩ :=
    Text.exists_dropEndWhile_append (fun c => c == '/' || c == '\\') root
  refine h (rest ++ slashes) ⟨Text.afterIgnoringCase?_eq_some.2 ⟨q, ?_, hq⟩, ?_⟩
  · rw [← List.append_assoc, ← hsplit]
    exact hroot
  · cases rest with
    | cons c rest => exact hends.imp_left fun h => absurd h (List.cons_ne_nil _ _)
    | nil =>
      cases slashes with
      | nil => exact .inl rfl
      | cons c slashes =>
        have hc := hslashes c List.mem_cons_self
        refine .inr ?_
        simp only [List.nil_append, List.head?_cons, Option.any_some, isSeparator]
        simp at hc
        rcases hc with rfl | rfl <;> decide

theorem segmentsOf_append_cons (s t : Text) :
    segmentsOf (s ++ '/' :: t) = segmentsOf s ++ segmentsOf t := by
  have hturned : Text.replaceChar (s ++ '/' :: t) '\\' "/" =
      Text.replaceChar s '\\' "/" ++ '/' :: Text.replaceChar t '\\' "/" := by
    rw [Text.replaceChar, List.flatMap_append]
    rfl
  rw [segmentsOf, hturned]
  exact List.splitOnP_append_cons _ _ (by decide)

theorem segmentsOf_eq_nil_singleton {t : Text} (h : segmentsOf t = [[]]) : t = [] := by
  have hturned : ['/'].intercalate (segmentsOf t) = t.replaceChar '\\' "/" :=
    List.intercalate_splitOn '/'
  rw [h] at hturned
  cases t with
  | nil => rfl
  | cons c t =>
    rw [Text.replaceChar, List.flatMap_cons] at hturned
    split at hturned
    · cases hturned
    · cases hturned

/-- Without the separator that file systems do not know, a text is cut at every separator. -/
theorem segmentsOf_of_not_mem : ∀ {t : Text}, '>' ∉ t → segmentsOf t = t.splitOnP isSeparator
  | [], _ => rfl
  | c :: t, h => by
    rw [List.mem_cons, not_or] at h
    have ih := segmentsOf_of_not_mem h.2
    by_cases hc : isSeparator c = true
    · have hturned : segmentsOf (c :: t) = [] :: segmentsOf t := by
        simp only [isSeparator, Bool.or_eq_true, beq_iff_eq] at hc
        rcases hc with (rfl | rfl) | rfl
        · exact absurd rfl h.1
        · exact segmentsOf_append_cons [] t
        · exact segmentsOf_append_cons [] t
      rw [hturned, ih, List.splitOnP_cons_eq_if_modifyHead, if_pos hc]
    · have hback : c ≠ '\\' := by
        rintro rfl
        exact hc (by decide)
      have hslash : (c == '/') = false := by
        rw [beq_eq_false_iff_ne]
        rintro rfl
        exact hc (by decide)
      have hturned : segmentsOf (c :: t) = (segmentsOf t).modifyHead (c :: ·) := by
        rw [segmentsOf, Text.replaceChar, List.flatMap_cons, if_neg hback]
        exact (List.splitOnP_cons_eq_if_modifyHead _ _).trans (if_neg (by simp [hslash]))
      rw [hturned, ih, List.splitOnP_cons_eq_if_modifyHead, if_neg hc]

theorem segmentsOf_trail : ∀ {paths : List Text} (before : Text), (∀ path ∈ paths, '>' ∉ path) →
    segmentsOf (before ++ trail paths) =
      segmentsOf before ++ paths.flatMap (·.splitOnP isSeparator)
  | [], before, _ => by simp [trail]
  | path :: paths, before, h => by
    rw [List.forall_mem_cons] at h
    have hpath := segmentsOf_trail path h.2
    rw [trail_cons, List.cons_append, segmentsOf_append_cons, hpath, segmentsOf_of_not_mem h.1,
      List.flatMap_cons]

theorem not_mem_parts {part : Text} (h : part ∈ parts rest) :
    ∀ c ∈ part, isSeparator c = false := by
  intro c hc
  simpa using Text.not_mem_splitOnP (List.mem_filter.1 h).1 c hc

/-- Parts are cut at every separator. -/
theorem flatMap_splitOnP_parts {paths : List Text} (h : ∀ path ∈ paths, ∃ rest, path ∈ parts rest) :
    paths.flatMap (·.splitOnP isSeparator) = paths := by
  induction paths with
  | nil => rfl
  | cons path paths ih =>
    rw [List.forall_mem_cons] at h
    obtain ⟨⟨rest, hpath⟩, hpaths⟩ := h
    rw [List.flatMap_cons, List.splitOnP_eq_singleton (not_mem_parts hpath), ih hpaths]
    rfl

end Marker

end Reference

namespace Dictionary

/-- Without the names that have a separator in them. -/
def withoutSeparators (d : Dictionary) : Dictionary :=
  ⟨d.entries.filter fun e => !e.1.any Reference.isSeparator⟩

theorem get?_withoutSeparators (d : Dictionary) (token : Text) : d.withoutSeparators.get? token =
    if token.any Reference.isSeparator = true then none else d.get? token := by
  obtain ⟨entries⟩ := d
  unfold get? withoutSeparators
  induction entries with
  | nil => simp
  | cons e entries ih =>
    obtain ⟨name, value⟩ := e
    rw [List.filter_cons, lookup_entry]
    by_cases hname : token = name
    · rw [← hname, if_pos rfl]
      by_cases hsep : token.any Reference.isSeparator = true
      · simpa [hsep] using ih
      · simp [hsep]
    · rw [if_neg hname]
      split
      · rw [lookup_entry, if_neg hname, ih]
      · exact ih

end Dictionary

namespace Context

open Reference

variable {ctx : Context}

/-- What separates the parts of a reference stands in no name of the options. -/
def KeepsParts (ctx : Context) : Prop := ∀ c, isSeparator c = true → ctx.Separates c

theorem ne_of_isSeparator {c : Char} (h : isSeparator c = true) : c ≠ '&' := by
  rintro rfl
  exact absurd h (by decide)

theorem resolveWord_separator (h : ctx.KeepsParts) {c : Char} (hc : isSeparator c = true)
    (t : Text) : ctx.resolveWord (c :: t) = c :: ctx.resolveWord t := by
  have happend := resolveWord_append_cons (h c hc) (ne_of_isSeparator hc) [] t
  rw [resolveWord_eq_self List.not_mem_nil] at happend
  exact happend

/-- Resolving a text resolves its parts. -/
theorem splitOnP_resolveWord (h : ctx.KeepsParts) (t : Text) :
    (ctx.resolveWord t).splitOnP isSeparator =
      (t.splitOnP isSeparator).flatMap fun part => (ctx.resolveWord part).splitOnP isSeparator := by
  by_cases hsep : ∃ c ∈ t, isSeparator c = true
  · obtain ⟨c, hmem, hc⟩ := hsep
    obtain ⟨a, b, rfl⟩ := List.append_of_mem hmem
    have ha := splitOnP_resolveWord h a
    have hb := splitOnP_resolveWord h b
    rw [resolveWord_append_cons (h c hc) (ne_of_isSeparator hc),
      List.splitOnP_append_cons _ _ hc, List.splitOnP_append_cons _ _ hc, ha, hb,
      List.flatMap_append]
  · have hwhole : t.splitOnP isSeparator = [t] := by
      refine List.splitOnP_eq_singleton fun c hc => ?_
      exact Bool.eq_false_iff.2 fun hs => hsep ⟨c, hc, hs⟩
    rw [hwhole, List.flatMap_singleton]
termination_by t.length
decreasing_by
  · simp [‹t = _›]
  · simp [‹t = _›]
    omega

theorem parts_resolveWord (h : ctx.KeepsParts) (rest : Text) :
    parts (ctx.resolveWord rest) =
      (parts rest).flatMap fun part => parts (ctx.resolveWord part) := by
  have hnone : parts (ctx.resolveWord []) = [] := by
    rw [resolveWord_eq_self List.not_mem_nil]
    rfl
  rw [parts, splitOnP_resolveWord h, List.filter_flatMap, parts]
  induction rest.splitOnP isSeparator with
  | nil => rfl
  | cons piece pieces ih =>
    by_cases hpiece : piece = []
    · rw [List.flatMap_cons, hpiece, List.filter_cons_of_neg (by simp), ih]
      exact congrArg (· ++ _) hnone
    · rw [List.flatMap_cons, List.filter_cons_of_pos (by simpa using hpiece), List.flatMap_cons, ih]
      rfl

theorem resolveWord_trail (h : ctx.KeepsParts) : ∀ (paths : List Text) (before : Text),
    ctx.resolveWord (before ++ trail paths) =
      ctx.resolveWord before ++ trail (paths.map ctx.resolveWord)
  | [], before => by simp [trail]
  | path :: paths, before => by
    have hslash : isSeparator '/' = true := by decide
    rw [trail_cons, List.cons_append, resolveWord_append_cons (h _ hslash) (by decide),
      resolveWord_trail h paths path, List.map_cons, trail_cons, List.cons_append]

/-- Resolving leaves the marker of a reference in its place. -/
theorem marks_resolveWord (h : ctx.KeepsParts) {word rest : Text} (hmarks : Marks word rest) :
    Marks (ctx.resolveWord word) (ctx.resolveWord rest) := by
  obtain ⟨hrest, hends⟩ := hmarks
  obtain ⟨q, rfl, hq⟩ := Text.afterIgnoringCase?_eq_some.1 hrest
  have hfree : '&' ∉ q := not_mem_marker hq (by decide)
  have hmarker : Text.afterIgnoringCase? "$ir" (q ++ ctx.resolveWord rest) =
      some (ctx.resolveWord rest) := Text.afterIgnoringCase?_eq_some.2 ⟨q, rfl, hq⟩
  cases rest with
  | nil =>
    rw [List.append_nil, resolveWord_eq_self hfree]
    rw [resolveWord_eq_self List.not_mem_nil, List.append_nil] at hmarker
    exact ⟨by rw [resolveWord_eq_self List.not_mem_nil]; exact hmarker,
      .inl (resolveWord_eq_self List.not_mem_nil)⟩
  | cons c rest =>
    have hc : isSeparator c = true := by simpa using hends
    rw [resolveWord_append_cons (h c hc) (ne_of_isSeparator hc), resolveWord_eq_self hfree]
    rw [resolveWord_separator h hc] at hmarker ⊢
    exact ⟨hmarker, .inr hc⟩

/-- What marker and placeholders make of a word in either order. -/
theorem resolveWord_expandMarker (h : ctx.KeepsParts)
    (hroot : ctx.resolveWord (dropSlashes ctx.env.root) = dropSlashes ctx.env.root)
    {word rest : Text} (hmarks : Marks word rest) :
    ctx.resolveWord (expandMarker ctx.env.root word) =
        dropSlashes ctx.env.root ++ trail ((parts rest).map ctx.resolveWord) ∧
      expandMarker ctx.env.root (ctx.resolveWord word) = dropSlashes ctx.env.root ++
        trail ((parts rest).flatMap fun part => parts (ctx.resolveWord part)) := by
  constructor
  · rw [expandMarker_of_marks hmarks, resolveWord_trail h, hroot]
  · rw [expandMarker_of_marks (marks_resolveWord h hmarks), parts_resolveWord h]

/-- No placeholder that is replaced in a text has a separator in its name. -/
def Clean (ctx : Context) (t : Text) : Prop :=
  ∀ d, ctx.options.dictionary = some d → ∀ token ∈ d.asked maxPasses t,
    token.any isSeparator = true → d.get? token = none

def withoutSeparators (ctx : Context) : Context :=
  { ctx with options := { ctx.options with
      dictionary := ctx.options.dictionary.map Dictionary.withoutSeparators } }

theorem keepsParts_withoutSeparators (ctx : Context) : ctx.withoutSeparators.KeepsParts := by
  intro c hc d hd e he hmem
  obtain ⟨d, -, rfl⟩ := Option.map_eq_some_iff.1 hd
  have hnone := (List.mem_filter.1 he).2
  simp only [Bool.not_eq_true', List.any_eq_false] at hnone
  exact hnone c hmem hc

theorem resolveWord_withoutSeparators {t : Text} (h : ctx.Clean t) :
    ctx.withoutSeparators.resolveWord t = ctx.resolveWord t := by
  unfold resolveWord resolve OptionSet.resolve OptionSet.resolveWord withoutSeparators
  dsimp only
  split
  · rfl
  · cases hd : ctx.options.dictionary with
    | none => rfl
    | some d =>
      refine Dictionary.resolve_congr_asked fun token htoken => ?_
      rw [Dictionary.get?_withoutSeparators]
      split
      · exact (h d hd token htoken ‹_›).symm
      · rfl

/-- The path of a text in which placeholders are replaced. -/
def pathOf (ctx : Context) (resolved : Text) : Text :=
  expandSymbols (expandMarker ctx.env.root resolved)

/-- The source that a build script makes of a word. -/
def sourceOf (ctx : Context) (word : Text) : Text :=
  ctx.resolveWord (expandMarker ctx.env.root word)

/-- Marker and placeholders of a word may be replaced in either order. -/
def InEitherOrder (ctx : Context) (word : Text) : Prop :=
  Path.Same (ctx.pathOf (ctx.sourceOf word)) (ctx.pathOf (ctx.resolveWord word))

/-- Trimming a source and replacing placeholders in it once more leaves its path as it is. -/
def Settled (ctx : Context) (source : Text) : Prop :=
  Path.Same (ctx.locate source) (ctx.pathOf source)

theorem settled_of_resolveWord {source : Text} (h : ctx.resolveWord (Text.trim source) = source) :
    ctx.Settled source :=
  congrArg (Path.components ∘ ctx.pathOf) h

theorem inEitherOrder_of_unmarked {word : Text} (h : Unmarked word) : ctx.InEitherOrder word := by
  rw [InEitherOrder, sourceOf, expandMarker_of_unmarked h]
  rfl

/-- What a word with a marker needs to name one file: no placeholder in it reaches over a separator,
no part of it gets the separator that file systems do not know, and the source root stands for
itself. Parts may become empty where that takes no symbol from the code behind it. -/
structure KeepsMarked (ctx : Context) (word rest : Text) : Prop where
  clean : ∀ t ∈ word :: expandMarker ctx.env.root word :: dropSlashes ctx.env.root :: parts rest,
    ctx.Clean t
  single : ∀ part ∈ parts rest, '>' ∉ ctx.resolveWord part
  empty : (∃ part ∈ parts rest, [] ∈ (ctx.resolveWord part).splitOnP isSeparator) →
    dropSlashes ctx.env.root ≠ [] ∧ ((segmentsOf (ctx.sourceOf word)).any isMarking = true →
      Tidy (segmentsOf (ctx.sourceOf word)))
  root : ctx.resolveWord (dropSlashes ctx.env.root) = dropSlashes ctx.env.root
  unmarked : Unmarked ctx.env.root

/-- The segments of such a word in either order; the marker is not replaced again. -/
theorem KeepsMarked.segments {word rest : Text} (h : ctx.KeepsMarked word rest)
    (hmarks : Marks word rest) :
    let front := segmentsOf (dropSlashes ctx.env.root)
    let back := (parts rest).flatMap fun part => (ctx.resolveWord part).splitOnP isSeparator
    segmentsOf (ctx.sourceOf word) = front ++ back ∧
      segmentsOf (expandMarker ctx.env.root (ctx.resolveWord word)) =
        front ++ back.filter (· ≠ []) ∧
      expandMarker ctx.env.root (ctx.sourceOf word) = ctx.sourceOf word := by
  have hsame : ∀ t ∈ word :: expandMarker ctx.env.root word :: dropSlashes ctx.env.root ::
      parts rest, ctx.withoutSeparators.resolveWord t = ctx.resolveWord t :=
    fun t ht => resolveWord_withoutSeparators (h.clean t ht)
  simp only [List.forall_mem_cons] at hsame
  obtain ⟨hword, hexpanded, hroot, hparts⟩ := hsame
  obtain ⟨hsource, htyped⟩ := resolveWord_expandMarker (keepsParts_withoutSeparators ctx)
    (hroot.trans h.root) hmarks
  have henv : ctx.withoutSeparators.env = ctx.env := rfl
  rw [henv, hexpanded, List.map_congr_left hparts] at hsource
  rw [henv, hword,
    List.flatMap_congr fun part hpart => congrArg parts (hparts part hpart)] at htyped
  have hsingle : ∀ path ∈ (parts rest).map ctx.resolveWord, '>' ∉ path :=
    List.forall_mem_map.2 h.single
  have hcut : ∀ path ∈ (parts rest).flatMap fun part => parts (ctx.resolveWord part),
      ∃ rest, path ∈ parts rest := by
    intro path hpath
    obtain ⟨part, -, hmem⟩ := List.mem_flatMap.1 hpath
    exact ⟨_, hmem⟩
  refine ⟨?_, ?_, ?_⟩
  · rw [sourceOf, hsource, segmentsOf_trail _ hsingle, List.flatMap_map]
  · have hplain : ∀ path ∈ (parts rest).flatMap fun part => parts (ctx.resolveWord part),
        '>' ∉ path := by
      intro path hpath hmem
      obtain ⟨_, hpart⟩ := hcut path hpath
      exact absurd (not_mem_parts hpart _ hmem) (by decide)
    rw [htyped, segmentsOf_trail _ hplain, flatMap_splitOnP_parts hcut, List.filter_flatMap]
    rfl
  · rw [sourceOf, hsource]
    exact expandMarker_of_unmarked (h.unmarked.dropSlashes.append _) _

theorem KeepsMarked.inEitherOrder {word rest : Text} (h : ctx.KeepsMarked word rest)
    (hmarks : Marks word rest) : ctx.InEitherOrder word := by
  obtain ⟨hsource, htyped, honce⟩ := h.segments hmarks
  rw [InEitherOrder, pathOf, pathOf, honce]
  by_cases hempty : ∃ part ∈ parts rest, [] ∈ (ctx.resolveWord part).splitOnP isSeparator
  · obtain ⟨hroot, htidy⟩ := h.empty hempty
    refine same_expandSymbols hsource htyped (List.splitOn_ne_nil '/' _) (fun hnone => ?_) htidy
    exact hroot (segmentsOf_eq_nil_singleton hnone)
  · have hnamed : ∀ s ∈ (parts rest).flatMap fun part =>
        (ctx.resolveWord part).splitOnP isSeparator, s ≠ [] := by
      rintro s hs rfl
      exact hempty (by simpa using List.mem_flatMap.1 hs)
    rw [List.filter_eq_self.2 fun s hs => by simpa using hnamed s hs] at htyped
    rw [expandSymbols_eq_spellOut, expandSymbols_eq_spellOut, hsource, htyped]
    rfl

end Context

namespace BuildLine

open Reference

variable {ctx : Context} {word : Text}

theorem plain_wellFormed (hdash : Text.startsWith word "-" = false)
    (hlegacy : isLegacy word = false) : (Argument.plain word).WellFormed := by
  have hhead : word.head? ≠ some '-' := by
    rw [Text.startsWith_dash] at hdash
    simpa using hdash
  refine ⟨hlegacy, ?_, fun flag => ?_⟩
  · rintro rfl
    exact hhead (by decide)
  · refine Option.eq_none_iff_forall_not_mem.2 fun value hvalue => hhead ?_
    obtain ⟨q, rfl, hq⟩ := Text.afterIgnoringCase?_eq_some.1 hvalue
    have hlower : q.head?.map Char.toLower = some '-' := by
      rw [Text.head?_of_sameIgnoringCase hq]
      cases flag <;> decide
    obtain ⟨c, hc, hdash⟩ := Option.map_eq_some_iff.1 hlower
    rw [eq_of_toLower_eq hdash (by decide)] at hc
    rw [List.head?_append, hc]
    rfl

/-- A word that is no flag and is not passed over is the source of its line. -/
theorem ofLine_runSql (hroot : Text.startsWith ctx.env.root "-" = false) (hword : Text.Whole word)
    (hdash : Text.startsWith word "-" = false) (hlegacy : isLegacy word = false) :
    ParsedLine.ofLine ctx.resolveWord ctx.env.root ("runsql " ++ word) =
      .command (declared ctx.resolveWord ctx.env.root .runSql [.plain word]) := by
  have hname : Text.sameIgnoringCase BuildCommand.runSql.name "runsql" = true := by decide
  have hwords : Text.words ("runsql " ++ word) = ("runsql" : Text) :: [word] :=
    (Text.words_append_blank "runsql" word (by decide)).trans (by
      rw [Text.words_of_whole hword, Text.words_of_whole (by decide)]
      rfl)
  have hread : readWords ctx.resolveWord ctx.env.root {} [word] =
      [Argument.plain word].foldl (Argument.put ctx.resolveWord ctx.env.root) {} :=
    readWords_arguments (List.forall_mem_singleton.2 (plain_wellFormed hdash hlegacy)) {}
  rw [ofLine_of_command hname hwords, hread, ofArguments_eq_declared hroot]

/-- A word is the same file in a build script as on the command line, when its marker and its
placeholders may be replaced in either order and doing so again makes no difference; if one of the
two holds, the other one is needed. Words without a marker may be replaced in either order, and so
may those with one whose parts stay apart. -/
theorem locate_runSql (hroot : Text.startsWith ctx.env.root "-" = false) (hword : Text.Whole word)
    (hdash : Text.startsWith word "-" = false) (hlegacy : isLegacy word = false) :
    ∃ line, ParsedLine.ofLine ctx.resolveWord ctx.env.root ("runsql " ++ word) = .command line ∧
      line.command = .runSql ∧ line.source = some (ctx.sourceOf word) ∧
      (ctx.InEitherOrder word →
        (Path.Same (ctx.locate (ctx.sourceOf word)) (ctx.locate word) ↔
          ctx.Settled (ctx.sourceOf word))) ∧
      (ctx.Settled (ctx.sourceOf word) →
        (Path.Same (ctx.locate (ctx.sourceOf word)) (ctx.locate word) ↔
          ctx.InEitherOrder word)) ∧
      (Unmarked word → ctx.InEitherOrder word) ∧
      ∀ rest, Marks word rest → ctx.KeepsMarked word rest → ctx.InEitherOrder word := by
  have hoperand : isOperand word = true := by
    rw [isOperand, hdash]
    rfl
  have hsource : (declared ctx.resolveWord ctx.env.root .runSql [.plain word]).source =
      some (ctx.sourceOf word) := by
    simp [declared, Argument.plain?, hoperand, Context.sourceOf]
  have htyped : ctx.locate word = ctx.pathOf (ctx.resolveWord word) := by
    rw [Context.locate, Text.trim_of_unbroken hword.2, Context.pathOf]
  refine ⟨_, ofLine_runSql hroot hword hdash hlegacy, rfl, hsource, fun heither => ?_,
    fun hsettled => ?_, Context.inEitherOrder_of_unmarked, fun rest hmarks hkeeps =>
    hkeeps.inEitherOrder hmarks⟩
  · rw [Context.Settled, htyped, Path.Same, Path.Same, heither]
  · rw [Context.InEitherOrder, htyped, Path.Same, Path.Same, hsettled]

/-- A run below `root` with these options. -/
def sourceContext (root : Text) (entries : List (Text × Text)) : Context :=
  let env := { Dictionary.acmeDev with root }
  { env, options := { env, maxAge := 0, dictionary := some ⟨entries⟩ }, files := {} }

/-- Options in the parts of a reference, one of them empty, below a root that ends in a slash. -/
def partsContext : Context :=
  sourceContext "/ibs/"
    [("&dir&", "css"), ("&e&", []), ("&file&", "ss/ba/&name&.sql"), ("&name&", "a")]

def partsWord : Text := "$IR>&dir&\\&e&>&file&"

theorem locate_runSql_parts :
    Text.startsWith partsContext.env.root "-" = false ∧ Text.Whole partsWord ∧
      Text.startsWith partsWord "-" = false ∧ isLegacy partsWord = false ∧
      partsContext.KeepsMarked partsWord ">&dir&\\&e&>&file&" ∧
      ∃ line, ParsedLine.ofLine partsContext.resolveWord "/ibs/" ("runsql " ++ partsWord) =
          .command line ∧ line.command = .runSql ∧
        line.source = some "/ibs/css//ss/ba/a.sql" ∧
        partsContext.locate "/ibs/css//ss/ba/a.sql" = "/ibs/css//SQL_Sources/Basics/a.sql" ∧
        partsContext.locate partsWord = "/ibs/css/SQL_Sources/Basics/a.sql" ∧
        Path.Same (partsContext.locate "/ibs/css//ss/ba/a.sql")
          (partsContext.locate partsWord) := by
  have hmarks : Marks partsWord ">&dir&\\&e&>&file&" := by
    refine ⟨by decide, .inr (by decide)⟩
  have hkeeps : partsContext.KeepsMarked partsWord ">&dir&\\&e&>&file&" := by
    refine ⟨fun t ht d hd => ?_, by decide +kernel, fun _ => ⟨by decide, fun _ => ⟨?_, ?_⟩⟩,
      by decide +kernel, fun rest hmarks => ?_⟩
    · obtain rfl := Option.some.inj hd
      revert t
      decide +kernel
    · decide +kernel
    · decide +kernel
    · have hnone : Text.afterIgnoringCase? "$ir" partsContext.env.root = none := by decide +kernel
      exact absurd (hnone.symm.trans hmarks.1) nofun
  have hsource : partsContext.sourceOf partsWord = "/ibs/css//ss/ba/a.sql" := by decide +kernel
  have hsettled : partsContext.Settled (partsContext.sourceOf partsWord) :=
    Context.settled_of_resolveWord (by decide +kernel)
  have hroot : Text.startsWith partsContext.env.root "-" = false := by decide
  have hword : Text.Whole partsWord := by decide
  have hdash : Text.startsWith partsWord "-" = false := by decide
  have hlegacy : isLegacy partsWord = false := by decide
  obtain ⟨line, hline, hcommand, hfound, hsame, -, -, heither⟩ :=
    locate_runSql hroot hword hdash hlegacy
  have hone := (hsame (heither _ hmarks hkeeps)).2 hsettled
  rw [hsource] at hfound hone
  exact ⟨hroot, hword, hdash, hlegacy, hkeeps, line, hline, hcommand, hfound, by decide +kernel,
    by decide +kernel, hone⟩

/-- The paths that a word names in a build script and on the command line. -/
def pathsOf (root : Text) (entries : List (Text × Text)) (word : Text) : Option (Text × Text) :=
  let ctx := sourceContext root entries
  match ParsedLine.ofLine ctx.resolveWord root ("runsql " ++ word) with
  | .command line => line.source.map fun source => (ctx.locate source, ctx.locate word)
  | _ => none

/-- A word that may be a source names two paths. -/
def Ambiguous (root : Text) (entries : List (Text × Text)) (word : Text) : Prop :=
  Text.startsWith root "-" = false ∧ Text.Whole word ∧ Text.startsWith word "-" = false ∧
    isLegacy word = false ∧
    ∃ script typed, pathsOf root entries word = some (script, typed) ∧
      ¬ Path.Same script typed

/-- An option that stands in its own value, a value with a blank at its end, a value and a name with
a separator, an empty value, and roots with a placeholder and with the marker. -/
theorem runSql_ambiguous :
    Ambiguous "/ibs" [("&r&", "x&r&")] "&r&" ∧
      Ambiguous "/ibs" [("&pad&", "x.sql ")] "&pad&" ∧
      Ambiguous "/ibs" [("&part&", "a>b")] "$ir>&part&" ∧
      Ambiguous "/ibs" [("&a>b&", "x")] "$ir>&a>b&" ∧
      Ambiguous "/ibs" [("&e&", [])] "$ir>css>ss>&e&>ba>x.sql" ∧
      Ambiguous "/i&r&" [("&r&", "bs")] "$ir>a" ∧
      Ambiguous "$ir/x" [] "$ir>a" := by
  refine ⟨⟨by decide, by decide, by decide, by decide, "xxxxxxxxxxxxxxxxxxxx&r&", "xxxxxxxxxx&r&",
      by decide +kernel, by decide⟩,
    ⟨by decide, by decide, by decide, by decide, "x.sql", "x.sql ", by decide +kernel, by decide⟩,
    ⟨by decide, by decide, by decide, by decide, "/ibs/a>b", "/ibs/a/b", by decide +kernel,
      by decide⟩,
    ⟨by decide, by decide, by decide, by decide, "/ibs/&a/b&", "/ibs/x", by decide +kernel,
      by decide⟩,
    ⟨by decide, by decide, by decide, by decide, "/ibs/css/SQL_Sources//ba/x.sql",
      "/ibs/css/SQL_Sources/Basics/x.sql", by decide +kernel, by decide⟩,
    ⟨by decide, by decide, by decide, by decide, "/ibs/a", "/i&r&/a", by decide +kernel, by decide⟩,
    ⟨by decide, by decide, by decide, by decide, "$ir/x/x/a", "$ir/x/a", by decide +kernel,
      by decide⟩⟩

end BuildLine

end SqlBuild
