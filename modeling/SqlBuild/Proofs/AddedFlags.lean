import SqlBuild.Proofs.PasswordSecrecy
import SqlBuild.Proofs.StackedFlags

/-!
# Numbers put into a command line

A number put in where no flag waits for its value is one more flag given (`read_unsigned`), whatever
stands before and behind it. It settles the flag before it sooner than the next word would have; the
rest of the line is read beside the line without the numbers (`Along`). A number with a minus sign
is no value but a word of its own that starts with a dash, and the line is refused (`read_signed`).
-/

namespace SqlBuild

/-- Behind the minus sign of a number stands a digit. -/
theorem Text.exists_digit_of_signed? {bits : Nat} {t : Text}
    (h : (signed? bits ('-' :: t)).isSome = true) : ∃ d r, t = d :: r ∧ d.isDigit = true := by
  obtain ⟨n, hn⟩ := Option.isSome_iff_exists.1 h
  obtain ⟨hread, -⟩ := Option.filter_eq_some_iff.1 hn
  obtain ⟨i, hi, -⟩ := Option.map_eq_some_iff.1 hread
  obtain ⟨m, hm, -⟩ := Option.bind_eq_some_iff.1 hi
  unfold digits? at hm
  split_ifs at hm with hdigits
  obtain ⟨d, r, rfl⟩ := List.exists_cons_of_ne_nil hdigits.1
  exact ⟨d, r, rfl, List.all_eq_true.1 hdigits.2 d List.mem_cons_self⟩

namespace Grammar

variable {g : Grammar}

section Lines

/-- What the words of a line give, the last flag settled. -/
def finish (g : Grammar) (r : Reading) (words : List Text) : Except UsageError Reading :=
  words.foldlM g.step r >>= Reading.settle

theorem finish_nil (r : Reading) : g.finish r [] = r.settle := rfl

theorem finish_cons (r : Reading) (word : Text) (words : List Text) :
    g.finish r (word :: words) = g.step r word >>= fun r => g.finish r words := by
  rw [finish, List.foldlM_cons, bind_assoc]
  rfl

theorem isStacking_finish (words : List Text) : IsStacking g fun r => g.finish r words :=
  (isStacking_foldlM words).bind isStacking_settle

theorem finish_cons_of_step {r r₁ : Reading} {word : Text} (h : g.step r word = .ok r₁)
    (words : List Text) : g.finish r (word :: words) = g.finish r₁ words := by
  rw [finish_cons, h]
  rfl

theorem exists_step_of_finish {r s : Reading} {word : Text} {words : List Text}
    (h : g.finish r (word :: words) = .ok s) :
    ∃ r₁, g.step r word = .ok r₁ ∧ g.finish r₁ words = .ok s := by
  rw [finish_cons] at h
  exact exists_of_bind_eq_ok h

variable (hg : g.takesRest = false)

include hg

theorem finish_settled : ∀ (words : List Text) {r s : Reading}, r.awaiting = false →
    r.settle = .ok s → g.finish r words = g.finish s words
  | [], r, s, hawaiting, hs => by
    have hpending : s.pending = none := by rw [settle_eq hs hawaiting]
    rw [finish_nil, finish_nil, hs, settle_settled hpending]
  | word :: words, r, s, hawaiting, hs => by
    rcases step_settled hg hawaiting hs word with hsame | ⟨r₁, s₁, hr₁, hs₁, hawaiting₁, hsettle₁⟩
    · rw [finish_cons, finish_cons, hsame]
    · rw [finish_cons_of_step hr₁, finish_cons_of_step hs₁]
      exact finish_settled words hawaiting₁ hsettle₁

/-- A line that goes through settles what is pending at any place in it. -/
theorem exists_settle_of_finish : ∀ (words : List Text) (r : Reading) {e : Reading},
    r.awaiting = false → g.finish r words = .ok e → ∃ s, r.settle = .ok s
  | [], r, e, _, h => ⟨e, h⟩
  | word :: words, r, e, hawaiting, h => by
    obtain ⟨r₁, hstep, hfinish⟩ := exists_step_of_finish h
    by_cases hword : r.trailing = true ∨ word ≠ ['-', '-']
    · exact (settlesFirst_step hg hawaiting hword).1 r₁ hstep
    · obtain ⟨hr, rfl⟩ : r.trailing = false ∧ word = ['-', '-'] := by simpa using hword
      obtain rfl : { r with trailing := true } = r₁ := by simpa [step, hr] using hstep
      obtain ⟨s₁, hs₁⟩ :=
        exists_settle_of_finish words { r with trailing := true } hawaiting hfinish
      rw [settle_trailing] at hs₁
      cases hs : r.settle with
      | error e =>
        rw [hs] at hs₁
        cases hs₁
      | ok s => exact ⟨s, rfl⟩

end Lines

/-- The letter of a flag that takes a number. -/
structure IsNumberFlag (g : Grammar) (letter : Char) (flag : Flag) : Prop where
  ne_dash : letter ≠ '-'
  found : g.findShort? letter = some flag
  takes : flag.takes = .number

/-- A word of a command line, or a number put into it with the letter of its flag. -/
inductive Item
  | word (text : Text)
  | number (letter : Char) (flag : Flag) (value : Text)

namespace Item

/-- The words an item stands for. -/
def words : Item → List Text
  | word text => [text]
  | number letter _ value => [['-', letter], value]

/-- What is left when the numbers are taken out. -/
def kept? : Item → Option Text
  | word text => some text
  | number .. => none

/-- The flag that is given by a number, with its value. -/
def given? : Item → Option (Text × Text)
  | word _ => none
  | number _ flag value => some (flag.long, value)

/-- What stands behind the letter of a number flag is a number. -/
def WellFormed (g : Grammar) : Item → Prop
  | word _ => True
  | number letter flag value => g.IsNumberFlag letter flag ∧ (Text.signed? 64 value).isSome = true

/-- No minus sign stands before a number. -/
def isUnsigned : Item → Bool
  | word _ => true
  | number _ _ value => value.head? != some '-'

end Item

/-- Whether no number stands where a flag waits for its value, nor behind the flags. -/
def opens (g : Grammar) (r : Reading) : List Item → Bool
  | [] => true
  | .word text :: items =>
    match g.step r text with
    | .ok r => g.opens r items
    | .error _ => true
  | .number .. :: items => !r.awaiting && !r.trailing && g.opens r items

/-- The words of a line that goes through, and what is left behind them. -/
theorem opens_words : ∀ {words : List Text} {items : List Item} {r s : Reading},
    g.opens r (words.map .word ++ items) = true →
      g.finish r (words ++ items.filterMap Item.kept?) = .ok s →
        ∃ r₁, words.foldlM g.step r = .ok r₁ ∧ g.opens r₁ items = true ∧
          g.finish r₁ (items.filterMap Item.kept?) = .ok s
  | [], _, r, _, hopens, hfinish => ⟨r, rfl, hopens, hfinish⟩
  | word :: words, items, r, s, hopens, hfinish => by
    obtain ⟨r₁, hstep, hfinish₁⟩ := exists_step_of_finish hfinish
    have hopens₁ : g.opens r₁ (words.map .word ++ items) = true := by
      simpa only [List.map_cons, List.cons_append, opens, hstep] using hopens
    obtain ⟨r₂, hwords, h⟩ := opens_words hopens₁ hfinish₁
    refine ⟨r₂, ?_, h⟩
    rw [List.foldlM_cons, hstep]
    exact hwords

/-- A reading in which more has been given than in another. -/
structure IsAbove (extra : Text → Option Text) (r r' : Reading) : Prop where
  same : r' = { r with given := r'.given }
  lookup : ∀ name, r'.given.lookup name = (extra name).or (r.given.lookup name)

theorem Stacks.above {reader : Reading → Except UsageError Reading} {r r' r₁ : Reading}
    {values : List (Text × Text)} {extra : Text → Option Text} (hs : Stacks g reader r r₁ values)
    (h : IsAbove extra r r') (hextra : ∀ v ∈ values, extra v.1 = none) :
    ∃ r₁', reader r' = .ok r₁' ∧ IsAbove extra r₁ r₁' := by
  have hnew : ∀ v ∈ values, r'.given.lookup v.1 = none := fun v hv => by
    rw [h.lookup, hextra v hv, hs.fresh v hv]
    rfl
  refine ⟨{ r₁ with given := values ++ r'.given }, ?_, ⟨rfl, fun name => ?_⟩⟩
  · rw [h.same]
    exact hs.again _ hnew
  · simp only [hs.given, List.lookup_append, h.lookup]
    cases hvalues : values.lookup name with
    | none => simp
    | some value =>
      obtain ⟨before, after, rfl, -⟩ := List.lookup_eq_some_iff.1 hvalues
      simp [hextra (name, value) (by simp)]

theorem Stacks.isSome_lookup {reader : Reading → Except UsageError Reading} {r r₁ : Reading}
    {values : List (Text × Text)} (hs : Stacks g reader r r₁ values) :
    ∀ v ∈ values, (r₁.given.lookup v.1).isSome = true := by
  intro v hv
  have hvalues : (values.lookup v.1).isSome = true := by
    rw [Option.isSome_iff_ne_none, Ne, List.lookup_eq_none_iff]
    exact fun hnone => bne_iff_ne.1 (hnone v hv) rfl
  rw [hs.given, List.lookup_append, Option.isSome_or, hvalues, Bool.true_or]

/-- What is new to a line in the end is new to its readings. -/
theorem Stacks.extra_none {reader : Reading → Except UsageError Reading} {r r₁ s : Reading}
    {values : List (Text × Text)} {extra : Text → Option Text} {words : List Text}
    (hs : Stacks g reader r r₁ values) (hfinish : g.finish r₁ words = .ok s)
    (hclear : ∀ name, (s.given.lookup name).isSome = true → extra name = none) :
    ∀ v ∈ values, extra v.1 = none := by
  obtain ⟨more, hmore⟩ := isStacking_finish words r₁ s hs.pends hfinish
  refine fun v hv => hclear v.1 ?_
  rw [hmore.given, List.lookup_append, Option.isSome_or, hs.isSome_lookup v hv, Bool.or_true]

/-- A line with numbers put in is read beside the line without them: `r` is the reading of the words
that are kept, `r'` that of all words, and what is left is read to its end without the numbers. -/
structure Along (g : Grammar) (s : Reading) (items : List Item) (extra : Text → Option Text)
    (r r' : Reading) : Prop where
  pends : g.Pends r
  above : IsAbove extra r r'
  opens : g.opens r items = true
  finish : g.finish r (items.filterMap Item.kept?) = .ok s
  clear : ∀ name, (s.given.lookup name).isSome = true → extra name = none

section Numbers

variable {s r r' : Reading} {items : List Item} {extra : Text → Option Text}

theorem Along.word {text : Text} (h : g.Along s (.word text :: items) extra r r') :
    ∃ r₁ r₁', g.step r' text = .ok r₁' ∧ g.Along s items extra r₁ r₁' := by
  obtain ⟨r₁, hstep, hfinish⟩ := exists_step_of_finish h.finish
  obtain ⟨values, hs⟩ := isStacking_step text r r₁ h.pends hstep
  obtain ⟨r₁', hstep', habove⟩ := hs.above h.above (hs.extra_none hfinish h.clear)
  have hopens := h.opens
  simp only [Grammar.opens, hstep] at hopens
  exact ⟨r₁, r₁', hstep', hs.pends, habove, hopens, hfinish, h.clear⟩

theorem opens_settled (hg : g.takesRest = false) : ∀ (items : List Item) {r s : Reading},
    r.awaiting = false → r.settle = .ok s → g.opens r items = g.opens s items
  | [], _, _, _, _ => rfl
  | .word text :: items, r, s, hawaiting, hs => by
    rcases step_settled hg hawaiting hs text with hsame | ⟨r₁, s₁, hr₁, hs₁, hawaiting₁, hsettle₁⟩
    · simp only [Grammar.opens, hsame]
    · simp only [Grammar.opens, hr₁, hs₁]
      exact opens_settled hg items hawaiting₁ hsettle₁
  | .number .. :: items, r, s, hawaiting, hs => by
    rw [Grammar.opens, Grammar.opens, opens_settled hg items hawaiting hs,
      settle_eq hs hawaiting]

section

variable {letter : Char} {flag : Flag} {value : Text} (hg : g.takesRest = false)

include hg

/-- Where a number stands, both readings can be settled. -/
theorem Along.settled (h : g.Along s (.number letter flag value :: items) extra r r') :
    r'.awaiting = false ∧ r'.trailing = false ∧
      ∃ t t', r'.settle = .ok t' ∧ g.Along s items extra t t' := by
  have hopens := h.opens
  simp only [Grammar.opens, Bool.and_eq_true, Bool.not_eq_true'] at hopens
  obtain ⟨⟨hawaiting, htrailing⟩, hopens⟩ := hopens
  have hfinish : g.finish r (items.filterMap Item.kept?) = .ok s := h.finish
  obtain ⟨t, ht⟩ := exists_settle_of_finish hg _ r hawaiting hfinish
  have hfinish' : g.finish t (items.filterMap Item.kept?) = .ok s :=
    (finish_settled hg _ hawaiting ht).symm.trans hfinish
  obtain ⟨values, hs⟩ := isStacking_settle r t h.pends ht
  obtain ⟨t', ht', habove⟩ := hs.above h.above (hs.extra_none hfinish' h.clear)
  refine ⟨by rw [h.above.same, hawaiting], by rw [h.above.same, htrailing], t, t', ht', hs.pends,
    habove, ?_, hfinish', h.clear⟩
  rw [← opens_settled hg items hawaiting ht, hopens]

theorem step_single {c : Char} (hdash : c ≠ '-') (htrailing : r.trailing = false) :
    g.step r ['-', c] = g.shorts r [c] := by
  have hdashes : g.takesDashes r = false := by simp [takesDashes, hg]
  simp only [step, htrailing, Bool.false_eq_true, if_false]
  split
  · rename_i heq
    exact absurd (List.cons.inj (List.cons.inj heq).2).1 hdash
  · rename_i heq
    exact absurd (List.cons.inj (List.cons.inj heq).2).1 hdash
  · rename_i heq
    obtain ⟨rfl, rfl⟩ := List.cons.inj (List.cons.inj heq).2
    simp only [hdashes, Bool.false_and, Bool.false_eq_true, if_false]
  · rename_i hnone
    exact absurd rfl (hnone c [])

/-- The letter of a flag settles what is pending and waits for a value. -/
theorem step_letter {t : Reading} (hflag : g.IsNumberFlag letter flag)
    (htrailing : r.trailing = false) (ht : r.settle = .ok t) : g.step r ['-', letter] =
      .ok { t with pending := some (flag, none), awaiting := true } := by
  have hvalue : flag.takesValue = true := by simp [Flag.takesValue, hflag.takes]
  simp only [step_single hg hflag.ne_dash htrailing, shorts, hflag.found, hvalue, if_true,
    Reading.expectValue, ht]
  rfl

/-- Behind the letter of a flag that takes a value there is no place for a number. -/
theorem waits_of_single {r₁ : Reading} {c : Char} (hdash : c ≠ '-')
    (hvalue : ∀ flag ∈ g.flags, flag.short = some c → flag.takesValue = true)
    (h : g.step r ['-', c] = .ok r₁) : r₁.awaiting = true ∨ r₁.trailing = true := by
  cases htrailing : r.trailing with
  | true =>
    right
    have hpositional : g.step r ['-', c] = g.positional r ['-', c] := if_pos htrailing
    rw [hpositional, positional] at h
    split_ifs at h with hroom hrest
    · obtain ⟨s, hs, hr₁⟩ := exists_of_bind_eq_ok h
      have hs' := trailing_of_settle hs
      rw [← Except.ok.inj hr₁, ← htrailing]
      exact hs'
    · rw [hg] at hrest
      cases hrest
  | false =>
    left
    rw [step_single hg hdash htrailing, shorts] at h
    cases hfound : g.findShort? c with
    | none =>
      rw [hfound] at h
      cases h
    | some flag =>
      have hfind : g.flags.find? (·.short = some c) = some flag := hfound
      have hshort := List.find?_some hfind
      have hflag : flag.takesValue = true :=
        hvalue flag (List.mem_of_find?_eq_some hfind) (of_decide_eq_true hshort)
      simp only [hfound, hflag, if_true, Reading.expectValue] at h
      obtain ⟨s, -, hr₁⟩ := exists_of_bind_eq_ok h
      rw [← Except.ok.inj hr₁]

/-- A number without a minus sign is the value of the flag. -/
theorem finish_number {t : Reading} (hflag : g.IsNumberFlag letter flag)
    (hnumber : (Text.signed? 64 value).isSome = true) (hunsigned : value.head? ≠ some '-')
    (hawaiting : r.awaiting = false) (htrailing : r.trailing = false) (ht : r.settle = .ok t)
    (hnew : t.given.lookup flag.long = none) (words : List Text) :
    g.finish r (['-', letter] :: value :: words) =
      g.finish { t with given := (flag.long, value) :: t.given } words := by
  have httrailing : t.trailing = false := by rw [trailing_of_settle ht, htrailing]
  have hvalue : g.step { t with pending := some (flag, none), awaiting := true } value =
      .ok { t with pending := some (flag, some value), awaiting := false } := by
    rw [step_plain g { t with pending := some (flag, none), awaiting := true } hunsigned httrailing]
    rfl
  have hsettle : Reading.settle { t with pending := some (flag, some value), awaiting := false } =
      .ok { t with given := (flag.long, value) :: t.given } := by
    have hsame : { t with pending := none, awaiting := false } = t := by
      rw [settle_eq ht hawaiting, hawaiting]
    show Reading.react { t with pending := none, awaiting := false } flag (some value) = _
    rw [hsame]
    simp only [Reading.react, hflag.takes, Reading.give, hnew, Option.isSome_none,
      Option.isNone_iff_eq_none, Option.isSome_iff_ne_none.1 hnumber]
    rfl
  rw [finish_cons_of_step (step_letter hg hflag htrailing ht), finish_cons_of_step hvalue]
  exact finish_settled hg words rfl hsettle

/-- A minus sign makes the number a flag, and no flag has a digit for its letter. -/
theorem finish_signed {t : Reading} (hflag : g.IsNumberFlag letter flag)
    (hdigit : ∀ c : Char, c.isDigit = true → g.findShort? c = none)
    (hnumber : (Text.signed? 64 value).isSome = true) (hsigned : value.head? = some '-')
    (htrailing : r.trailing = false) (ht : r.settle = .ok t) (words : List Text) :
    g.finish r (['-', letter] :: value :: words) = .error .unknownArgument := by
  have httrailing : t.trailing = false := by rw [trailing_of_settle ht, htrailing]
  obtain ⟨rest, rfl⟩ := List.head?_eq_some_iff.1 hsigned
  obtain ⟨d, digits, rfl, hd⟩ := Text.exists_digit_of_signed? hnumber
  have hdash : d ≠ '-' := fun h => by rw [h] at hd; cases hd
  have hdashes : ∀ r, g.takesDashes r = false := fun r => by simp [takesDashes, hg]
  have hvalue : g.step { t with pending := some (flag, none), awaiting := true }
      ('-' :: d :: digits) = .error .unknownArgument := by
    simp [step, httrailing, hdash, hdashes, shorts, hdigit d hd]
  rw [finish_cons_of_step (step_letter hg hflag htrailing ht), finish_cons, hvalue]
  rfl

end

/-- The other line with one more number. -/
theorem Along.number {letter : Char} {flag : Flag} {value : Text} (hg : g.takesRest = false)
    (h : g.Along s (.number letter flag value :: items) extra r r')
    (hflag : g.IsNumberFlag letter flag) (hnumber : (Text.signed? 64 value).isSome = true)
    (hunsigned : value.head? ≠ some '-') (hnew : s.given.lookup flag.long = none)
    (hextra : extra flag.long = none) :
    ∃ t t', (∀ words, g.finish r' (['-', letter] :: value :: words) = g.finish t' words) ∧
      g.Along s items (fun name => if name = flag.long then some value else extra name) t t' := by
  obtain ⟨hawaiting, htrailing, t, t', ht', halong⟩ := h.settled hg
  have htnew : t.given.lookup flag.long = none := by
    obtain ⟨more, hmore⟩ := isStacking_finish _ t s halong.pends halong.finish
    rw [hmore.given, List.lookup_append, Option.or_eq_none_iff] at hnew
    exact hnew.2
  have hnew' : t'.given.lookup flag.long = none := by
    rw [halong.above.lookup, hextra, htnew]
    rfl
  refine ⟨t, _, finish_number hg hflag hnumber hunsigned hawaiting htrailing ht' hnew',
    halong.pends, ⟨?_, fun name => ?_⟩, halong.opens, halong.finish, fun name hname => ?_⟩
  · exact congrArg (fun t' => { t' with given := (flag.long, value) :: t'.given }) halong.above.same
  · by_cases hname : name = flag.long
    · simp [hname]
    · have hbeq : (name == flag.long) = false := beq_eq_false_iff_ne.2 hname
      simp only [List.lookup_cons, hbeq, hname, if_false]
      exact halong.above.lookup name
  · have hother : name ≠ flag.long := fun heq => by
      rw [heq, hnew] at hname
      cases hname
    rw [if_neg hother]
    exact halong.clear name hname

/-- Numbers without a minus sign in front of what is left. -/
theorem Along.run (hg : g.takesRest = false) {rest : List Item} : ∀ {front : List Item}
    {extra : Text → Option Text} {r r' : Reading}, g.Along s (front ++ rest) extra r r' →
      (∀ item ∈ front, item.WellFormed g ∧ item.isUnsigned = true) →
      ((front.filterMap Item.given?).map Prod.fst).Nodup →
      (∀ v ∈ front.filterMap Item.given?, s.given.lookup v.1 = none ∧ extra v.1 = none) →
      ∃ t t', (∀ words, g.finish r' (front.flatMap Item.words ++ words) = g.finish t' words) ∧
        g.Along s rest
          (fun name => ((front.filterMap Item.given?).lookup name).or (extra name)) t t'
  | [], extra, r, r', h, _, _, _ => ⟨r, r', fun _ => rfl, by simpa using h⟩
  | .word text :: front, extra, r, r', h, hfront, hdistinct, hnew => by
    obtain ⟨r₁, r₁', hstep, h₁⟩ := h.word
    obtain ⟨t, t', hread, halong⟩ :=
      Along.run hg h₁ (List.forall_mem_cons.1 hfront).2 hdistinct hnew
    refine ⟨t, t', fun words => ?_, halong⟩
    exact (finish_cons_of_step hstep _).trans (hread words)
  | .number letter flag value :: front, extra, r, r', h, hfront, hdistinct, hnew => by
    obtain ⟨⟨⟨hflag, hnumber⟩, hunsigned⟩, hfront⟩ := List.forall_mem_cons.1 hfront
    obtain ⟨⟨hsnew, hextra⟩, hnew⟩ := List.forall_mem_cons.1 hnew
    obtain ⟨hother, hdistinct⟩ := List.nodup_cons.1 hdistinct
    obtain ⟨t₁, t₁', hread₁, h₁⟩ := h.number hg hflag hnumber (bne_iff_ne.1 hunsigned) hsnew hextra
    have hne : ∀ v ∈ front.filterMap Item.given?, v.1 ≠ flag.long :=
      fun v hv heq => hother (List.mem_map.2 ⟨v, hv, heq⟩)
    have hnew₁ : ∀ v ∈ front.filterMap Item.given?, s.given.lookup v.1 = none ∧
        (if v.1 = flag.long then some value else extra v.1) = none :=
      fun v hv => ⟨(hnew v hv).1, (if_neg (hne v hv)).trans (hnew v hv).2⟩
    obtain ⟨t, t', hread, halong⟩ := Along.run hg h₁ hfront hdistinct hnew₁
    refine ⟨t, t', fun words => (hread₁ _).trans (hread words), ?_⟩
    have hsame : (fun name => (((Item.number letter flag value :: front).filterMap
        Item.given?).lookup name).or (extra name)) = fun name =>
          ((front.filterMap Item.given?).lookup name).or
            (if name = flag.long then some value else extra name) := by
      funext name
      show (List.lookup name ((flag.long, value) :: front.filterMap Item.given?)).or _ = _
      by_cases hname : name = flag.long
      · have hnone : (front.filterMap Item.given?).lookup flag.long = none :=
          List.lookup_eq_none_iff.2 fun v hv => bne_iff_ne.2 (hne v hv).symm
        simp [hnone, hname]
      · have hbeq : (name == flag.long) = false := beq_eq_false_iff_ne.2 hname
        simp only [List.lookup_cons, hbeq, hname, if_false]
    rw [hsame]
    exact halong

end Numbers

section Read

theorem read_eq_finish (words : List Text) : g.read words = g.finish {} words >>= fun r =>
    if r.positionals.length < g.required then .error .missingRequiredArgument else pure r := by
  rw [finish, bind_assoc]
  rfl

theorem finish_of_read {words : List Text} {s : Reading} (h : g.read words = .ok s) :
    g.finish {} words = .ok s ∧ ¬ s.positionals.length < g.required := by
  rw [read_eq_finish] at h
  obtain ⟨r, hr, hrest⟩ := exists_of_bind_eq_ok h
  split_ifs at hrest with hrequired
  obtain rfl := Except.ok.inj hrest
  exact ⟨hr, hrequired⟩

variable {items : List Item} {s : Reading}

theorem Along.start (hread : g.read (items.filterMap Item.kept?) = .ok s)
    (hopens : g.opens {} items = true) : g.Along s items (fun _ => none) {} {} where
  pends := nofun
  above := ⟨rfl, fun _ => rfl⟩
  opens := hopens
  finish := (finish_of_read hread).1
  clear _ _ := rfl

variable (hg : g.takesRest = false) (hread : g.read (items.filterMap Item.kept?) = .ok s)
  (hopens : g.opens {} items = true) (hitems : ∀ item ∈ items, item.WellFormed g)
  (hdistinct : ((items.filterMap Item.given?).map Prod.fst).Nodup)
  (hnew : ∀ v ∈ items.filterMap Item.given?, s.given.lookup v.1 = none)

include hg hread hopens hitems hdistinct hnew

/-- Numbers put into a line that goes through are given with it, and nothing else changes. -/
theorem read_unsigned (hunsigned : ∀ item ∈ items, item.isUnsigned = true) :
    ∃ s', g.read (items.flatMap Item.words) = .ok s' ∧
      IsAbove ((items.filterMap Item.given?).lookup ·) s s' := by
  have hstart : g.Along s (items ++ []) (fun _ => none) {} {} := by
    rw [List.append_nil]
    exact .start hread hopens
  obtain ⟨t, t', hwords, halong⟩ := hstart.run hg (fun item hitem => ⟨hitems item hitem,
    hunsigned item hitem⟩) hdistinct fun v hv => ⟨hnew v hv, rfl⟩
  obtain ⟨values, hs⟩ := isStacking_settle t s halong.pends halong.finish
  obtain ⟨s', hs', habove⟩ := hs.above halong.above fun v hv =>
    halong.clear v.1 (hs.isSome_lookup v hv)
  have hfinish : g.finish {} (items.flatMap Item.words) = .ok s' := by
    rw [← List.append_nil (items.flatMap Item.words), hwords]
    exact hs'
  have hrequired : ¬ s'.positionals.length < g.required := by
    rw [habove.same]
    exact (finish_of_read hread).2
  simp only [Option.or_none] at habove
  refine ⟨s', ?_, habove⟩
  rw [read_eq_finish, hfinish]
  exact if_neg hrequired

/-- With a minus sign before one of the numbers the line is refused. -/
theorem read_signed (hdigit : ∀ c : Char, c.isDigit = true → g.findShort? c = none)
    (hsigned : ∃ item ∈ items, item.isUnsigned = false) :
    g.read (items.flatMap Item.words) = .error .unknownArgument := by
  obtain ⟨signed, hmem, hminus⟩ := hsigned
  obtain ⟨first, hfirst⟩ : ∃ first, items.find? (!·.isUnsigned) = some first :=
    Option.isSome_iff_exists.1 (List.find?_isSome.2 ⟨signed, hmem, by simp [hminus]⟩)
  obtain ⟨hsigned, front, back, hsplit, hfront⟩ := List.find?_eq_some_iff_append.1 hfirst
  have hstart := Along.start hread hopens
  rw [hsplit] at hstart hitems hdistinct hnew
  rw [List.filterMap_append, List.map_append] at hdistinct
  rw [List.filterMap_append] at hnew
  obtain ⟨hfrontitems, hbackitems⟩ := List.forall_mem_append.1 hitems
  obtain ⟨t, t', hwords, halong⟩ := hstart.run hg
    (fun item hitem => ⟨hfrontitems item hitem, by simpa using hfront item hitem⟩)
    (List.nodup_append.1 hdistinct).1 fun v hv => ⟨(List.forall_mem_append.1 hnew).1 v hv, rfl⟩
  cases first with
  | word text => cases hsigned
  | number letter flag value =>
    obtain ⟨hflag, hnumber⟩ : g.IsNumberFlag letter flag ∧ _ := hbackitems _ List.mem_cons_self
    obtain ⟨-, htrailing, u, u', hu', -⟩ := halong.settled hg
    have hvalue : value.head? = some '-' := by simpa [Item.isUnsigned] using hsigned
    have hfinish : g.finish {} (items.flatMap Item.words) = .error .unknownArgument := by
      rw [hsplit, List.flatMap_append, hwords]
      exact finish_signed hg hflag hdigit hnumber hvalue htrailing hu' _
    rw [read_eq_finish, hfinish]
    rfl

end Read

end Grammar

end SqlBuild
