import SqlBuild.Proofs.Directories
import SqlBuild.Proofs.LetterCase
import SqlBuild.Reference.Symbolic

/-!
# Symbols as one walk

The table of symbols is applied entry after entry to a whole path. Each entry changes whole
segments, since it begins and ends with a slash (`pass_append`, `pass_cons`), and what it writes out
is no symbol for the entries after it (`writeAreas_writeAreas`). So the table does what one
walk over the segments does (`walk`, `foldl_symbols`), and a path it was applied to has no symbol
left (`walk_walk`).
-/

namespace SqlBuild

namespace Reference

/-- Segments behind the first one of a path, as they stand in it. -/
def trail (segments : List Text) : Text := segments.flatMap ('/' :: ·)

/-- Segments with a separator on both sides of each. -/
def enclosed (segments : List Text) : Text := trail segments ++ ['/']

/-- What the entry for `p` makes of segments, when `q` are its directories. -/
def pass (p q l : List Text) : Text := replaceSymbolFrom (enclosed p) (enclosed q) 0 (trail l)

/-- The directory of the SQL sources. -/
def sources : Text := "SQL_Sources"

/-- Whether a segment is the symbol of that directory. -/
def isSymbol (segment : Text) : Bool := Text.sameIgnoringCase segment "ss"

/-- The directory of the area in `table` that a segment is the code of. -/
def areaIn? (table : List (Text × Text)) (segment : Text) : Option Text :=
  (table.find? fun entry => Text.sameIgnoringCase segment entry.1).map Prod.snd

/-- The directory that a segment is the code of, if there is a separator behind it. -/
def areaBefore? (segment : Text) (rest : List Text) : Option Text :=
  if rest = [] then none else areaIn? areas segment

/-- The segments behind the first one, written out from left to right. The last of them has no
separator behind it. -/
def walk : List Text → List Text
  | segment :: next :: rest =>
    if isSymbol segment then
      match areaBefore? next rest with
      | some area => sources :: area :: walk rest
      | none => sources :: walk (next :: rest)
    else segment :: walk (next :: rest)
  | segments => segments

/-- The segments of a path, written out. -/
def writeOut : List Text → List Text
  | [] => []
  | first :: rest => first :: walk rest

/-- Writes out the areas of a table, each with the symbol before it. -/
def writeAreas (table : List (Text × Text)) : List Text → List Text
  | segment :: next :: last :: rest =>
    if isSymbol segment then
      match areaIn? table next with
      | some area => sources :: area :: writeAreas table (last :: rest)
      | none => segment :: writeAreas table (next :: last :: rest)
    else segment :: writeAreas table (next :: last :: rest)
  | segments => segments

/-- Writes out the symbols that stand alone. -/
def writeSources : List Text → List Text
  | segment :: next :: rest =>
    (if isSymbol segment then sources else segment) :: writeSources (next :: rest)
  | segments => segments

section Trails

variable {p l : List Text} {s t : Text}

theorem trail_cons (s : Text) (l : List Text) : trail (s :: l) = '/' :: s ++ trail l :=
  List.flatMap_cons

theorem trail_append (l m : List Text) : trail (l ++ m) = trail l ++ trail m :=
  List.flatMap_append

theorem enclosed_cons (s : Text) (l : List Text) : enclosed (s :: l) = '/' :: s ++ enclosed l := by
  rw [enclosed, trail_cons, List.append_assoc]
  rfl

/-- The text behind a segment begins with a separator, if there is any. -/
theorem head?_trail (l : List Text) : (trail l).head?.all (· == '/') = true := by
  cases l <;> rfl

theorem head?_enclosed (l : List Text) : ∃ t, enclosed l = '/' :: t := by
  cases l with
  | nil => exact ⟨[], rfl⟩
  | cons s l => exact ⟨s ++ enclosed l, enclosed_cons s l⟩

theorem lower_trail (l : List Text) : Text.lower (trail l) = trail (l.map Text.lower) := by
  unfold Text.lower trail
  rw [List.map_flatMap, List.flatMap_map]
  rfl

theorem lower_enclosed (l : List Text) : Text.lower (enclosed l) = enclosed (l.map Text.lower) := by
  rw [enclosed, Text.lower, List.map_append, ← Text.lower, lower_trail]
  rfl

theorem not_mem_lower (h : '/' ∉ s) : '/' ∉ Text.lower s := by
  intro hmem
  obtain ⟨c, hc, hlower⟩ := List.mem_map.1 hmem
  exact h (eq_of_toLower_eq hlower (by decide) ▸ hc)

/-- A segment before a separator that stands at the start of a text is the first segment of it. -/
theorem isPrefix_segment {x y : Text} : ∀ {s t : Text}, '/' ∉ s → '/' ∉ t →
    y.head?.all (· == '/') = true → (s ++ '/' :: x <+: t ++ y ↔ s = t ∧ '/' :: x <+: y)
  | [], [], _, _, _ => by simp
  | [], d :: t, _, ht, _ => by
    have hd : '/' ≠ d := fun heq => ht (heq ▸ List.mem_cons_self)
    simp [hd]
  | c :: s, [], hs, _, hy => by
    cases y with
    | nil => simp
    | cons d y =>
      obtain rfl : d = '/' := by simpa using hy
      have hc : c ≠ '/' := fun heq => hs (heq ▸ List.mem_cons_self)
      simp [hc]
  | c :: s, d :: t, hs, ht, hy => by
    have hrest := isPrefix_segment (x := x) (s := s) (t := t)
      (fun h => hs (List.mem_cons_of_mem _ h)) (fun h => ht (List.mem_cons_of_mem _ h)) hy
    rw [List.cons_append, List.cons_append, List.cons_prefix_cons, hrest, List.cons.injEq,
      and_assoc]

/-- Parts begin with enclosed segments only by whole segments, and with one behind them. -/
theorem enclosed_isPrefix : ∀ {p l : List Text}, (∀ s ∈ p, '/' ∉ s) → (∀ s ∈ l, '/' ∉ s) →
    (enclosed p <+: trail l ↔ ∃ s rest, l = p ++ s :: rest)
  | [], [], _, _ => by simp [enclosed, trail]
  | [], s :: l, _, _ => by simp [enclosed, trail]
  | a :: p, [], _, _ => by simp [enclosed, trail]
  | a :: p, b :: l, hp, hl => by
    rw [List.forall_mem_cons] at hp hl
    obtain ⟨t, ht⟩ := head?_enclosed p
    have hrest := enclosed_isPrefix hp.2 hl.2
    rw [ht] at hrest
    rw [enclosed_cons, trail_cons, List.cons_append, List.cons_append, List.cons_prefix_cons, ht,
      isPrefix_segment hp.1 hl.1 (head?_trail l), hrest]
    simp [eq_comm]

/-- A text begins with enclosed segments in any case. -/
theorem begins_enclosed (hp : ∀ s ∈ p, '/' ∉ s) (hl : ∀ s ∈ l, '/' ∉ s) :
    Text.sameIgnoringCase ((trail l).take (enclosed p).length) (enclosed p) = true ↔
      ∃ front s rest, l = front ++ s :: rest ∧ front.map Text.lower = p.map Text.lower := by
  have hbegins : Text.sameIgnoringCase ((trail l).take (enclosed p).length) (enclosed p) = true ↔
      enclosed (p.map Text.lower) <+: trail (l.map Text.lower) := by
    rw [← lower_enclosed, ← lower_trail, List.prefix_iff_eq_take, Text.sameIgnoringCase, beq_iff_eq]
    simp [Text.lower, eq_comm]
  rw [hbegins, enclosed_isPrefix (by simpa using fun s hs => not_mem_lower (hp s hs))
    (by simpa using fun s hs => not_mem_lower (hl s hs))]
  constructor
  · rintro ⟨_, _, h⟩
    obtain ⟨front, back, rfl, hfront, hback⟩ := List.map_eq_append_iff.1 h
    obtain ⟨s, rest, rfl, -⟩ := List.map_eq_cons_iff.1 hback
    exact ⟨front, s, rest, rfl, hfront⟩
  · rintro ⟨front, s, rest, rfl, hfront⟩
    exact ⟨Text.lower s, rest.map Text.lower, by rw [List.map_append, hfront, List.map_cons]⟩

end Trails

section Replacement

variable {short long s t : Text} {p q l : List Text}

/-- What is passed over. -/
theorem replaceSymbolFrom_drop (short long : Text) : ∀ (x t : Text),
    replaceSymbolFrom short long x.length (x ++ t) = replaceSymbolFrom short long 0 t
  | [], _ => rfl
  | _ :: x, t => replaceSymbolFrom_drop short long x t

/-- No occurrence begins inside a segment. -/
theorem replaceSymbolFrom_segment (hshort : short.head? = some '/') (long : Text) :
    ∀ {s : Text}, '/' ∉ s → ∀ t, replaceSymbolFrom short long 0 (s ++ t) =
      s ++ replaceSymbolFrom short long 0 t
  | [], _, t => rfl
  | c :: s, hs, t => by
    rw [List.mem_cons, not_or] at hs
    have hno : ¬ Text.sameIgnoringCase ((c :: (s ++ t)).take short.length) short = true := by
      intro h
      obtain ⟨short, rfl⟩ := List.head?_eq_some_iff.1 hshort
      have hc : c.toLower = '/' := by simpa using Text.head?_of_sameIgnoringCase h
      exact hs.1 (eq_of_toLower_eq hc (by decide)).symm
    rw [List.cons_append, replaceSymbolFrom, if_neg hno, replaceSymbolFrom_segment hshort long hs.2]
    rfl

/-- An occurrence is replaced, and the separator at its end begins what follows. -/
theorem pass_append (front : List Text) (hp : ∀ s ∈ p, '/' ∉ s)
    (hl : ∀ t ∈ front ++ s :: l, '/' ∉ t) (q : List Text) (hne : p ≠ [])
    (hfront : front.map Text.lower = p.map Text.lower) :
    pass p q (front ++ s :: l) = trail q ++ pass p q (s :: l) := by
  have hbegins := (begins_enclosed hp hl).2 ⟨front, s, l, rfl, hfront⟩
  have hlength : (trail front).length = (trail p).length := by
    have hlower : Text.lower (trail front) = Text.lower (trail p) := by
      rw [lower_trail, hfront, lower_trail]
    simpa [Text.lower] using congrArg List.length hlower
  obtain ⟨x, hx⟩ : ∃ x, trail front = '/' :: x := by
    cases front with
    | nil => exact absurd (List.map_eq_nil_iff.1 hfront.symm) hne
    | cons f front => exact ⟨f ++ trail front, trail_cons f front⟩
  have hpass : (enclosed p).length - 2 = x.length := by
    rw [enclosed, List.length_append, ← hlength, hx]
    simp
  rw [trail_append, hx, List.cons_append] at hbegins
  rw [pass, trail_append, hx, List.cons_append, replaceSymbolFrom, if_pos hbegins, hpass,
    replaceSymbolFrom_drop, ← pass]
  congr 1
  exact List.dropLast_concat

/-- Where no occurrence begins, a segment is left as it is. -/
theorem pass_cons (hp : ∀ s ∈ p, '/' ∉ s) (hl : ∀ t ∈ s :: l, '/' ∉ t) (q : List Text)
    (hno : ∀ front t rest, s :: l = front ++ t :: rest → front.map Text.lower ≠ p.map Text.lower) :
    pass p q (s :: l) = '/' :: s ++ pass p q l := by
  have hskip : ¬ Text.sameIgnoringCase ((trail (s :: l)).take (enclosed p).length)
      (enclosed p) = true := by
    rw [begins_enclosed hp hl]
    rintro ⟨front, t, rest, hsplit, hfront⟩
    exact hno front t rest hsplit hfront
  obtain ⟨t, ht⟩ := head?_enclosed p
  rw [trail_cons, List.cons_append] at hskip
  rw [pass, trail_cons, List.cons_append, replaceSymbolFrom, if_neg hskip,
    replaceSymbolFrom_segment (by rw [ht]; rfl) _ (hl s List.mem_cons_self)]
  rfl

end Replacement

/-- A code and its directory as the table has them. -/
structure IsArea (entry : Text × Text) : Prop where
  code : '/' ∉ entry.1
  area : '/' ∉ entry.2
  /-- No code is the symbol before it. -/
  code_ne : ¬ isSymbol entry.1 = true
  /-- Nothing that is written out is read again. -/
  area_ne : ¬ isSymbol entry.2 = true
  sources_ne : ¬ Text.sameIgnoringCase sources entry.1 = true

theorem isArea_of_mem {entry : Text × Text} (h : entry ∈ areas) : IsArea entry := by
  have hall : ∀ e ∈ areas, '/' ∉ e.1 ∧ '/' ∉ e.2 ∧ ¬ isSymbol e.1 = true ∧
      ¬ isSymbol e.2 = true ∧
      ¬ Text.sameIgnoringCase sources e.1 = true := by decide
  obtain ⟨hcode, harea, hcode_ne, harea_ne, hsources_ne⟩ := hall entry h
  exact ⟨hcode, harea, hcode_ne, harea_ne, hsources_ne⟩

section Areas

variable {table : List (Text × Text)} {l : List Text} {s t area : Text}

theorem areaIn?_singleton (e : Text × Text) (s : Text) :
    areaIn? [e] s = if Text.sameIgnoringCase s e.1 then some e.2 else none := by
  unfold areaIn?
  cases h : Text.sameIgnoringCase s e.1 <;> simp [h]

theorem areaIn?_append (table more : List (Text × Text)) (s : Text) :
    areaIn? (table ++ more) s = (areaIn? table s).or (areaIn? more s) := by
  rw [areaIn?, List.find?_append, Option.map_or]
  rfl

theorem exists_of_areaIn? (h : areaIn? table s = some area) :
    ∃ e ∈ table, Text.sameIgnoringCase s e.1 = true ∧ e.2 = area := by
  obtain ⟨e, he, harea⟩ := Option.map_eq_some_iff.1 h
  have hcode := List.find?_some he
  exact ⟨e, List.mem_of_find?_eq_some he, hcode, harea⟩

theorem writeAreas_area (hss : isSymbol s = true) (h : areaIn? table t = some area) (hne : l ≠ []) :
    writeAreas table (s :: t :: l) = sources :: area :: writeAreas table l := by
  obtain ⟨last, rest, rfl⟩ := List.exists_cons_of_ne_nil hne
  rw [writeAreas, if_pos hss, h]

/-- A segment is left where no area follows it. -/
theorem writeAreas_cons (h : isSymbol s = true → ∀ t ∈ l.head?, areaIn? table t = none) :
    writeAreas table (s :: l) = s :: writeAreas table l := by
  match l with
  | [] => rfl
  | [t] => rfl
  | t :: u :: rest =>
    rw [writeAreas]
    split
    · rename_i hss
      rw [h hss t rfl]
    · rfl

theorem writeAreas_of_short (table : List (Text × Text))
    (h : ∀ s t u rest, l = s :: t :: u :: rest → False) : writeAreas table l = l := by
  rw [writeAreas]
  exact h

theorem length_writeAreas (table : List (Text × Text)) (l : List Text) :
    (writeAreas table l).length = l.length := by
  fun_induction writeAreas table l <;> simp_all

theorem writeAreas_ne_nil (table : List (Text × Text)) (s : Text) (l : List Text) :
    writeAreas table (s :: l) ≠ [] :=
  List.ne_nil_of_length_eq_add_one (length_writeAreas table (s :: l))

theorem head?_writeAreas (h : t ∈ (writeAreas table l).head?) : t ∈ l.head? ∨ t = sources := by
  fun_induction writeAreas table l with
  | case1 => exact .inr (Option.some.inj h).symm
  | case2 => exact .inl h
  | case3 => exact .inl h
  | case4 => exact .inl h

theorem mem_writeAreas (h : s ∈ writeAreas table l) :
    s ∈ l ∨ s = sources ∨ ∃ e ∈ table, s = e.2 := by
  fun_induction writeAreas table l with
  | case1 segment next last rest hss area harea ih =>
    obtain ⟨e, he, -, rfl⟩ := exists_of_areaIn? harea
    rcases List.mem_cons.1 h with rfl | h
    · exact .inr (.inl rfl)
    · rcases List.mem_cons.1 h with rfl | h
      · exact .inr (.inr ⟨e, he, rfl⟩)
      · exact (ih h).imp_left fun h => List.mem_cons_of_mem _ (List.mem_cons_of_mem _ h)
  | case2 segment next last rest hss harea ih =>
    rcases List.mem_cons.1 h with rfl | h
    · exact .inl List.mem_cons_self
    · exact (ih h).imp_left (List.mem_cons_of_mem _)
  | case3 segment next last rest hss ih =>
    rcases List.mem_cons.1 h with rfl | h
    · exact .inl List.mem_cons_self
    · exact (ih h).imp_left (List.mem_cons_of_mem _)
  | case4 segments => exact .inl h

theorem writeAreas_nil_table (l : List Text) : writeAreas [] l = l := by
  induction l with
  | nil => rfl
  | cons s l ih => rw [writeAreas_cons fun _ _ _ => rfl, ih]

theorem writeSources_cons (s : Text) (h : l ≠ []) : writeSources (s :: l) =
    (if isSymbol s then sources else s) :: writeSources l := by
  obtain ⟨t, l, rfl⟩ := List.exists_cons_of_ne_nil h
  rfl

theorem mem_writeSources (h : s ∈ writeSources l) : s ∈ l ∨ s = sources := by
  fun_induction writeSources l with
  | case1 segment next rest ih =>
    rcases List.mem_cons.1 h with rfl | h
    · split
      · exact .inr rfl
      · exact .inl List.mem_cons_self
    · exact (ih h).imp_left (List.mem_cons_of_mem _)
  | case2 segments => exact .inl h

end Areas

section Passes

variable {e : Text × Text} {l : List Text} {s : Text}

theorem pass_area_cons (he : IsArea e) (hl : ∀ t ∈ s :: l, '/' ∉ t)
    (hno : ∀ t u rest, l = t :: u :: rest → isSymbol s = true → areaIn? [e] t = none) :
    pass ["ss", e.1] [sources, e.2] (s :: l) = '/' :: s ++ pass ["ss", e.1] [sources, e.2] l := by
  refine pass_cons (by simpa using he.code) hl _ fun front u rest hsplit hfront => ?_
  simp only [List.map_cons, List.map_nil, List.map_eq_cons_iff, List.map_eq_nil_iff] at hfront
  obtain ⟨a, _, rfl, ha, b, _, rfl, hb, rfl⟩ := hfront
  obtain ⟨rfl, rfl⟩ := List.cons.inj hsplit
  have hcode : Text.sameIgnoringCase b e.1 = true := beq_iff_eq.2 hb
  have hnone := hno b u rest rfl (beq_iff_eq.2 ha)
  rw [areaIn?_singleton, if_pos hcode] at hnone
  cases hnone

/-- The pass for one area. -/
theorem pass_area (he : IsArea e) (hl : ∀ s ∈ l, '/' ∉ s) :
    pass ["ss", e.1] [sources, e.2] l = trail (writeAreas [e] l) := by
  fun_induction writeAreas [e] l with
  | case1 segment next last rest hss area harea ih =>
    rw [areaIn?_singleton] at harea
    obtain ⟨hcode, rfl⟩ := Option.ite_some_none_eq_some.1 harea
    have hfront : [segment, next].map Text.lower = [("ss" : Text), e.1].map Text.lower := by
      rw [List.map_cons, List.map_singleton, beq_iff_eq.1 hss, beq_iff_eq.1 hcode]
      rfl
    have hlast : ∀ s ∈ last :: rest, '/' ∉ s := fun s hs => hl s (by simp [List.mem_cons.1 hs])
    have hpass := pass_append [segment, next] (by simpa using he.code) hl [sources, e.2] (by simp)
      hfront
    rw [ih hlast, ← trail_append] at hpass
    exact hpass
  | case2 segment next last rest hss harea ih =>
    rw [pass_area_cons he hl fun t u more hsplit _ => (List.cons.inj hsplit).1 ▸ harea,
      ih (List.forall_mem_cons.1 hl).2, trail_cons]
  | case3 segment next last rest hss ih =>
    rw [pass_area_cons he hl fun _ _ _ _ h => absurd h hss, ih (List.forall_mem_cons.1 hl).2,
      trail_cons]
  | case4 segments hshort =>
    -- An occurrence takes two segments and one behind them.
    match segments, hshort with
    | [], _ => rfl
    | [s], _ => rw [pass_area_cons he hl nofun, trail_cons]; rfl
    | [s, t], _ =>
      rw [pass_area_cons he hl nofun, pass_area_cons he (List.forall_mem_cons.1 hl).2 nofun,
        trail_cons, trail_cons]
      rfl
    | s :: t :: u :: rest, hshort => exact (hshort s t u rest rfl).elim

theorem pass_source_cons (hl : ∀ t ∈ s :: l, '/' ∉ t) (hno : l ≠ [] → ¬ isSymbol s = true) :
    pass ["ss"] [sources] (s :: l) = '/' :: s ++ pass ["ss"] [sources] l := by
  refine pass_cons (by decide) hl _ fun front u rest hsplit hfront => ?_
  simp only [List.map_cons, List.map_nil, List.map_eq_cons_iff, List.map_eq_nil_iff] at hfront
  obtain ⟨a, _, rfl, ha, rfl⟩ := hfront
  obtain ⟨rfl, rfl⟩ := List.cons.inj hsplit
  exact hno (List.cons_ne_nil u rest) (beq_iff_eq.2 ha)

/-- The pass for the symbols that stand alone. -/
theorem pass_source (hl : ∀ s ∈ l, '/' ∉ s) :
    pass ["ss"] [sources] l = trail (writeSources l) := by
  fun_induction writeSources l with
  | case1 segment next rest ih =>
    have hrest : ∀ s ∈ next :: rest, '/' ∉ s := (List.forall_mem_cons.1 hl).2
    by_cases hss : isSymbol segment = true
    · have hfront : [segment].map Text.lower = [("ss" : Text)].map Text.lower := by
        rw [List.map_singleton, beq_iff_eq.1 hss]
        rfl
      have hpass := pass_append [segment] (by decide) hl [sources] (by simp) hfront
      rw [ih hrest, ← trail_append] at hpass
      rw [if_pos hss]
      exact hpass
    · rw [if_neg hss, pass_source_cons hl fun _ => hss, ih hrest, trail_cons]
  | case2 segments hshort =>
    match segments, hshort with
    | [], _ => rfl
    | [s], _ => rw [pass_source_cons hl fun h => absurd rfl h, trail_cons]; rfl
    | s :: t :: rest, hshort => exact (hshort s t rest rfl).elim

end Passes

section Composition

variable {e : Text × Text} {table : List (Text × Text)} {l : List Text} {s t : Text}

/-- What the pass for one more area does to a path that a table was applied to. -/
theorem writeAreas_writeAreas (htable : ∀ e ∈ table, IsArea e) (he : IsArea e) :
    writeAreas [e] (writeAreas table l) = writeAreas (table ++ [e]) l := by
  fun_induction writeAreas table l with
  | case1 segment next last rest hss area harea ih =>
    obtain ⟨e', he', -, rfl⟩ := exists_of_areaIn? harea
    have hsources : ¬ isSymbol sources = true := by decide
    have hboth : areaIn? (table ++ [e]) next = some e'.2 := by rw [areaIn?_append, harea]; rfl
    rw [writeAreas_cons fun h => absurd h hsources,
      writeAreas_cons fun h => absurd h (htable e' he').area_ne, ih,
      writeAreas_area hss hboth (List.cons_ne_nil last rest)]
  | case2 segment next last rest hss harea ih =>
    by_cases hcode : Text.sameIgnoringCase next e.1 = true
    · -- The code is no symbol itself, so it stands where it stood.
      have hnext : ¬ isSymbol next = true := by
        intro h
        refine he.code_ne ?_
        rw [isSymbol, Text.sameIgnoringCase, ← beq_iff_eq.1 hcode]
        exact h
      have hstep : ∀ (table : List (Text × Text)) (l : List Text),
          writeAreas table (next :: l) = next :: writeAreas table l :=
        fun table l => writeAreas_cons fun h => absurd h hnext
      have harea' : areaIn? [e] next = some e.2 := by rw [areaIn?_singleton, if_pos hcode]
      have hboth : areaIn? (table ++ [e]) next = some e.2 := by
        rw [areaIn?_append, harea, harea']
        rfl
      rw [hstep, hstep, hstep, List.cons.injEq] at ih
      rw [hstep, writeAreas_area hss harea' (writeAreas_ne_nil table last rest), ih.2,
        writeAreas_area hss hboth (List.cons_ne_nil last rest)]
    · have hnone : areaIn? [e] next = none := by rw [areaIn?_singleton, if_neg hcode]
      have hboth : areaIn? (table ++ [e]) next = none := by rw [areaIn?_append, harea, hnone]; rfl
      have hhead : ∀ t ∈ (writeAreas table (next :: last :: rest)).head?, areaIn? [e] t = none := by
        intro t ht
        rcases head?_writeAreas ht with ht | rfl
        · exact Option.some.inj ht ▸ hnone
        · rw [areaIn?_singleton, if_neg he.sources_ne]
      calc writeAreas [e] (segment :: writeAreas table (next :: last :: rest))
          = segment :: writeAreas [e] (writeAreas table (next :: last :: rest)) :=
            writeAreas_cons fun _ => hhead
        _ = segment :: writeAreas (table ++ [e]) (next :: last :: rest) := by rw [ih]
        _ = writeAreas (table ++ [e]) (segment :: next :: last :: rest) :=
            (writeAreas_cons fun _ t ht => Option.some.inj ht ▸ hboth).symm
  | case3 segment next last rest hss ih =>
    rw [writeAreas_cons fun h => absurd h hss, ih, writeAreas_cons fun h => absurd h hss]
  | case4 segments hshort => rw [writeAreas_of_short _ hshort, writeAreas_of_short _ hshort]

theorem walk_area {segment next area : Text} {rest : List Text}
    (hss : isSymbol segment = true) (h : areaBefore? next rest = some area) :
    walk (segment :: next :: rest) = sources :: area :: walk rest := by
  rw [walk, if_pos hss, h]

theorem walk_source {segment next : Text} {rest : List Text}
    (hss : isSymbol segment = true) (h : areaBefore? next rest = none) :
    walk (segment :: next :: rest) = sources :: walk (next :: rest) := by
  rw [walk, if_pos hss, h]

theorem walk_cons (hss : ¬ isSymbol s = true) (l : List Text) :
    walk (s :: l) = s :: walk l := by
  cases l with
  | nil => rfl
  | cons t l => rw [walk.eq_1, if_neg hss]

/-- The symbols that stand alone are written out last. -/
theorem writeSources_writeAreas (l : List Text) : writeSources (writeAreas areas l) = walk l := by
  have hbefore : ∀ (next last : Text) (rest : List Text),
      areaBefore? next (last :: rest) = areaIn? areas next :=
    fun next last rest => if_neg (List.cons_ne_nil last rest)
  fun_induction writeAreas areas l with
  | case1 segment next last rest hss area harea ih =>
    obtain ⟨e, he, -, rfl⟩ := exists_of_areaIn? harea
    rw [writeSources_cons _ (List.cons_ne_nil _ _), writeSources_cons _ (writeAreas_ne_nil _ _ _),
      if_neg (isArea_of_mem he).area_ne, ih, walk_area hss ((hbefore next last rest).trans harea)]
    rfl
  | case2 segment next last rest hss harea ih =>
    rw [writeSources_cons _ (writeAreas_ne_nil _ _ _), if_pos hss, ih,
      walk_source hss ((hbefore next last rest).trans harea)]
  | case3 segment next last rest hss ih =>
    rw [writeSources_cons _ (writeAreas_ne_nil _ _ _), if_neg hss, ih, walk_cons hss]
  | case4 segments hshort =>
    match segments, hshort with
    | [], _ => rfl
    | [s], _ => rfl
    | [s, t], _ =>
      by_cases hss : isSymbol s = true
      · rw [walk_source hss (if_pos rfl)]
        exact congrArg (· :: [t]) (if_pos hss)
      · rw [walk_cons hss]
        exact congrArg (· :: [t]) (if_neg hss)
    | s :: t :: u :: rest, hshort => exact (hshort s t u rest rfl).elim

end Composition

section Table

variable {first : Text} {l : List Text}

/-- The table entry of an area. -/
def symbolOf (entry : Text × Text) : Text × Text :=
  (enclosed ["ss", entry.1], enclosed [sources, entry.2])

theorem symbols_eq : symbols = areas.map symbolOf ++ [(enclosed ["ss"], enclosed [sources])] := by
  decide

theorem plain_writeAreas {table : List (Text × Text)} (htable : ∀ e ∈ table, IsArea e)
    (hl : ∀ s ∈ l, '/' ∉ s) : ∀ s ∈ writeAreas table l, '/' ∉ s := by
  intro s hs
  rcases mem_writeAreas hs with hs | rfl | ⟨e, he, rfl⟩
  · exact hl s hs
  · decide
  · exact (htable e he).area

theorem foldl_areas (hfirst : '/' ∉ first) (hl : ∀ s ∈ l, '/' ∉ s) :
    ∀ (more table : List (Text × Text)), (∀ e ∈ table ++ more, IsArea e) →
      (more.map symbolOf).foldl replaceSymbol (first ++ trail (writeAreas table l)) =
        first ++ trail (writeAreas (table ++ more) l)
  | [], table, _ => by rw [List.append_nil]; rfl
  | e :: more, table, h => by
    have htable : ∀ e ∈ table, IsArea e := fun e he => h e (List.mem_append_left _ he)
    have he : IsArea e := h e (List.mem_append_right _ List.mem_cons_self)
    have hpass : replaceSymbol (first ++ trail (writeAreas table l)) (symbolOf e) =
        first ++ trail (writeAreas (table ++ [e]) l) := by
      rw [replaceSymbol, symbolOf, replaceSymbolFrom_segment rfl _ hfirst, ← pass,
        pass_area he (plain_writeAreas htable hl), writeAreas_writeAreas htable he]
    have hrest := foldl_areas hfirst hl more (table ++ [e]) (by simpa using h)
    rw [List.map_cons, List.foldl_cons, hpass, hrest, List.append_assoc]
    rfl

/-- What the whole table makes of a path. -/
theorem foldl_symbols (hfirst : '/' ∉ first) (hl : ∀ s ∈ l, '/' ∉ s) :
    symbols.foldl replaceSymbol (first ++ trail l) = first ++ trail (walk l) := by
  have hareas := foldl_areas hfirst hl areas [] fun e he => isArea_of_mem he
  rw [writeAreas_nil_table, List.nil_append] at hareas
  rw [symbols_eq, List.foldl_append, hareas, List.foldl_cons, List.foldl_nil, replaceSymbol,
    replaceSymbolFrom_segment rfl _ hfirst, ← pass,
    pass_source (plain_writeAreas (fun e he => isArea_of_mem he) hl), writeSources_writeAreas]

end Table

section Walk

variable {l : List Text} {s : Text}

theorem areaIn?_of_areaBefore? {next area : Text} {rest : List Text}
    (h : areaBefore? next rest = some area) : areaIn? areas next = some area := by
  unfold areaBefore? at h
  split at h
  · cases h
  · exact h

theorem mem_walk (h : s ∈ walk l) : s ∈ l ∨ s = sources ∨ ∃ e ∈ areas, s = e.2 := by
  rw [← writeSources_writeAreas] at h
  rcases mem_writeSources h with h | rfl
  · exact mem_writeAreas h
  · exact .inr (.inl rfl)

/-- A segment that is no short form stays. -/
theorem mem_walk_of_mem (hs : ¬ isSymbol s = true) (harea : areaIn? areas s = none) (h : s ∈ l) :
    s ∈ walk l := by
  fun_induction walk l with
  | case1 segment next rest hss area hnext ih =>
    rcases List.mem_cons.1 h with rfl | h
    · exact absurd hss hs
    · rcases List.mem_cons.1 h with rfl | h
      · rw [areaIn?_of_areaBefore? hnext] at harea
        cases harea
      · exact List.mem_cons_of_mem _ (List.mem_cons_of_mem _ (ih h))
  | case2 segment next rest hss hnext ih =>
    rcases List.mem_cons.1 h with rfl | h
    · exact absurd hss hs
    · exact List.mem_cons_of_mem _ (ih h)
  | case3 segment next rest hss ih =>
    rcases List.mem_cons.1 h with rfl | h
    · exact List.mem_cons_self
    · exact List.mem_cons_of_mem _ (ih h)
  | case4 segments => exact h

theorem walk_walk (l : List Text) : walk (walk l) = walk l := by
  have hsources : ¬ isSymbol sources = true := by decide
  fun_induction walk l with
  | case1 segment next rest hss area harea ih =>
    obtain ⟨e, he, -, rfl⟩ := exists_of_areaIn? (areaIn?_of_areaBefore? harea)
    rw [walk_cons hsources, walk_cons (isArea_of_mem he).area_ne, ih]
  | case2 segment next rest hss harea ih => rw [walk_cons hsources, ih]
  | case3 segment next rest hss ih => rw [walk_cons hss, ih]
  | case4 segments hshort =>
    match segments, hshort with
    | [], _ => rfl
    | [s], _ => rfl
    | s :: t :: rest, hshort => exact (hshort s t rest rfl).elim

/-- A marking segment is no short form. -/
theorem mem_walk_of_isMarking (hs : isMarking s = true) (h : s ∈ l) : s ∈ walk l := by
  have hthree : s.length = 3 := by
    rcases (Bool.or_eq_true _ _).mp hs with h | h
    · exact Text.length_of_sameIgnoringCase h
    · exact Text.length_of_sameIgnoringCase h
  refine mem_walk_of_mem (fun hss => ?_) ?_ h
  · have htwo : s.length = 2 := Text.length_of_sameIgnoringCase hss
    omega
  · rw [Option.eq_none_iff_forall_ne_some]
    intro area harea
    obtain ⟨e, he, hcode, -⟩ := exists_of_areaIn? harea
    have htwo : ∀ e ∈ areas, e.1.length = 2 := by decide
    have hlength := Text.length_of_sameIgnoringCase hcode
    rw [htwo e he] at hlength
    omega

end Walk

section Paths

variable {t : Text}

theorem not_mem_turned (t : Text) : '\\' ∉ t.replaceChar '\\' "/" := by
  intro h
  obtain ⟨c, -, hc⟩ := List.mem_flatMap.1 h
  split at hc
  · simp at hc
  · rename_i hne
    exact hne (List.mem_singleton.1 hc).symm

theorem turned_of_not_mem : ∀ {t : Text}, '\\' ∉ t → t.replaceChar '\\' "/" = t
  | [], _ => rfl
  | c :: t, h => by
    rw [List.mem_cons, not_or] at h
    rw [Text.replaceChar, List.flatMap_cons, if_neg (Ne.symm h.1)]
    exact congrArg (c :: ·) (turned_of_not_mem h.2)

theorem mem_trail {c : Char} {l : List Text} : c ∈ trail l ↔ ∃ s ∈ l, c ∈ '/' :: s :=
  List.mem_flatMap

/-- A path is its first segment and its other ones. -/
theorem exists_trail (path : Text) : ∃ first rest, path.splitOn '/' = first :: rest ∧
    path = first ++ trail rest ∧ '/' ∉ first ∧ ∀ s ∈ rest, '/' ∉ s := by
  obtain ⟨first, rest, hsplit⟩ := List.exists_cons_of_ne_nil (List.splitOn_ne_nil '/' path)
  have hplain : ∀ s ∈ first :: rest, '/' ∉ s := by
    intro s hs hslash
    rw [← hsplit] at hs
    simpa using Text.not_mem_splitOnP hs '/' hslash
  refine ⟨first, rest, hsplit, ?_, List.forall_mem_cons.1 hplain⟩
  rw [trail, ← FileTree.intercalate_cons, ← hsplit, List.intercalate_splitOn]

/-- No separator comes into a segment, and no backslash. -/
theorem not_mem_of_mem_walk {c : Char} (hc : c = '/' ∨ c = '\\') {l : List Text}
    (hl : ∀ s ∈ l, c ∉ s) : ∀ s ∈ walk l, c ∉ s := by
  have hnames : c ∉ sources ∧ ∀ e ∈ areas, c ∉ e.2 := by
    rcases hc with rfl | rfl
    · decide
    · decide
  intro s hs
  rcases mem_walk hs with hs | rfl | ⟨e, he, rfl⟩
  · exact hl s hs
  · exact hnames.1
  · exact hnames.2 e he

theorem expandSymbols_of_not_mem (h : '\\' ∉ t) : expandSymbols t =
    if (t.splitOn '/').any isMarking then symbols.foldl replaceSymbol t else t := by
  rw [expandSymbols, turned_of_not_mem h]

/-- An expanded path is left as it is. -/
theorem expandSymbols_expanded (h : '\\' ∉ t) :
    expandSymbols (expandSymbols t) = expandSymbols t := by
  obtain ⟨first, rest, hsplit, rfl, hfirst, hrest⟩ := exists_trail t
  have hexpand := expandSymbols_of_not_mem h
  rw [foldl_symbols hfirst hrest, hsplit] at hexpand
  split at hexpand
  · rename_i hmarked
    have hslash : ∀ s ∈ first :: walk rest, '/' ∉ s :=
      List.forall_mem_cons.2 ⟨hfirst, not_mem_of_mem_walk (.inl rfl) hrest⟩
    have hagain : (first ++ trail (walk rest)).splitOn '/' = first :: walk rest := by
      rw [trail, ← FileTree.intercalate_cons]
      exact List.splitOn_intercalate '/' hslash (by simp)
    have hback : '\\' ∉ first ++ trail (walk rest) := by
      simp only [List.mem_append, mem_trail, not_or, not_exists, not_and] at h ⊢
      refine ⟨h.1, fun s hs hmem => ?_⟩
      have hrest' : ∀ s ∈ rest, '\\' ∉ s :=
        fun s hs hmem => h.2 s hs (List.mem_cons_of_mem _ hmem)
      exact not_mem_of_mem_walk (.inr rfl) hrest' s hs
        ((List.mem_cons.1 hmem).resolve_left (by decide))
    have hmarked' : (first :: walk rest).any isMarking = true := by
      rw [List.any_cons, Bool.or_eq_true, List.any_eq_true] at hmarked ⊢
      exact hmarked.imp_right fun ⟨s, hs, hmarks⟩ => ⟨s, mem_walk_of_isMarking hmarks hs, hmarks⟩
    rw [hexpand, expandSymbols_of_not_mem hback, hagain, if_pos hmarked',
      foldl_symbols hfirst fun s hs => hslash s (List.mem_cons_of_mem _ hs), walk_walk]
  · rw [hexpand, hexpand]

/-- The table of symbols is one walk over the segments of a path. References with a marking segment
are written out so, once and for all; others only have their backslashes turned. -/
theorem expandSymbols_walks (reference : Text) :
    let path := reference.replaceChar '\\' "/"
    let segments := path.splitOn '/'
    symbols.foldl replaceSymbol path = ['/'].intercalate (writeOut segments) ∧
      (segments.any isMarking = true →
        expandSymbols reference = ['/'].intercalate (writeOut segments)) ∧
      (segments.any isMarking = false → expandSymbols reference = path) ∧
      expandSymbols (expandSymbols reference) = expandSymbols reference := by
  intro path segments
  have hback : '\\' ∉ path := not_mem_turned reference
  have htable : symbols.foldl replaceSymbol path = ['/'].intercalate (writeOut segments) := by
    obtain ⟨first, rest, hsplit, hpath, hfirst, hrest⟩ := exists_trail path
    rw [show segments = first :: rest from hsplit, writeOut, FileTree.intercalate_cons, hpath]
    exact foldl_symbols hfirst hrest
  have hturned : expandSymbols path = expandSymbols reference :=
    expandSymbols_of_not_mem hback
  refine ⟨htable, fun hmarked => ?_, fun hunmarked => ?_, ?_⟩
  · rw [← htable]
    exact if_pos hmarked
  · exact if_neg (ne_true_of_eq_false hunmarked)
  · rw [← hturned]
    exact expandSymbols_expanded hback

theorem expandSymbols_walks_mixed :
    let reference : Text := "\\css/SS/ss\\Ba/ss/xx/ss"
    ((reference.replaceChar '\\' "/").splitOn '/').any isMarking = true ∧
      expandSymbols reference = "/css/SQL_Sources/SQL_Sources/Basics/SQL_Sources/xx/ss" ∧
      expandSymbols "/css/SQL_Sources/SQL_Sources/Basics/SQL_Sources/xx/ss" =
        "/css/SQL_Sources/SQL_Sources/Basics/SQL_Sources/xx/ss" := by
  intro reference
  have hmarked : ((reference.replaceChar '\\' "/").splitOn '/').any isMarking = true := by decide
  obtain ⟨-, hwalk, -, hsettled⟩ := expandSymbols_walks reference
  have hexpanded : expandSymbols reference =
      "/css/SQL_Sources/SQL_Sources/Basics/SQL_Sources/xx/ss" := (hwalk hmarked).trans (by decide)
  rw [hexpanded] at hsettled
  exact ⟨hmarked, hexpanded, hsettled⟩

end Paths

end Reference

end SqlBuild
