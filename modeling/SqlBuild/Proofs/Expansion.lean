import SqlBuild.Proofs.Locality

/-!
# Nested values are expanded completely

What a text stands for is said without passes: every placeholder is replaced by what its value
stands for (`Expands`). One pass leaves what a text stands for as it is (`Expands.pass`), and brings
a text made of placeholders below some level to one made of placeholders below the level before
(`Composed.pass`). So ten passes expand a text completely when the values of a dictionary are nested
in levels from 0 to 9 (`expands_iff_resolve`).
-/

namespace SqlBuild

namespace Dictionary

/-- Every `&` of a text belongs to a placeholder written in full, whose name is one of `known`. -/
inductive Composed (known : Text → Prop) : Text → Prop
  | nil : Composed known []
  | char {c : Char} {t : Text} (hc : c ≠ '&') (rest : Composed known t) : Composed known (c :: t)
  | placeholder (name : Text) {t : Text} (free : '&' ∉ name) (hname : known name)
      (rest : Composed known t) : Composed known ('&' :: name ++ '&' :: t)

/-- What a text stands for, the placeholders in values included. -/
inductive Expands (d : Dictionary) : Text → Text → Prop
  | nil : Expands d [] []
  | char {c : Char} {t u : Text} (hc : c ≠ '&') (rest : Expands d t u) :
      Expands d (c :: t) (c :: u)
  | placeholder {name value v t u : Text} (free : '&' ∉ name)
      (defined : d.get? ('&' :: name ++ ['&']) = some value) (inner : Expands d value v)
      (rest : Expands d t u) : Expands d ('&' :: name ++ '&' :: t) (v ++ u)

/-- The placeholder with this name has a value. -/
def Defines (d : Dictionary) (name : Text) : Prop :=
  ∃ value, d.get? ('&' :: name ++ ['&']) = some value

/-- The placeholder with this name has a value, and its level is less than `k`. -/
def Below (d : Dictionary) (level : Text → Nat) (k : Nat) (name : Text) : Prop :=
  d.Defines name ∧ level name < k

/-- Every placeholder has a level from 0 to 9, and its value is made of text and of placeholders of
lower levels. -/
def Levelled (d : Dictionary) (level : Text → Nat) : Prop :=
  ∀ name value, '&' ∉ name → d.get? ('&' :: name ++ ['&']) = some value →
    level name ≤ 9 ∧ Composed (d.Below level (level name)) value

namespace Composed

variable {known known' : Text → Prop} {s t : Text}

theorem append (hs : Composed known s) (ht : Composed known t) : Composed known (s ++ t) := by
  induction hs with
  | nil => exact ht
  | char hc _ ih => exact .char hc ih
  | placeholder name free hname _ ih =>
    rw [List.append_assoc]
    exact .placeholder name free hname ih

theorem mono (h : ∀ name, '&' ∉ name → known name → known' name) (ht : Composed known t) :
    Composed known' t := by
  induction ht with
  | nil => exact .nil
  | char hc _ ih => exact .char hc ih
  | placeholder name free hname _ ih => exact .placeholder name free (h name free hname) ih

theorem of_free (h : '&' ∉ t) : Composed known t := by
  induction t with
  | nil => exact .nil
  | cons c t ih =>
    rw [List.mem_cons, not_or] at h
    exact .char (Ne.symm h.1) (ih h.2)

end Composed

section Pass

variable {d : Dictionary} {known : Text → Prop} {name value t : Text}

theorem passFrom_length : ∀ s t : Text, d.passFrom s.length (s ++ t) = d.pass t
  | [], _ => rfl
  | _ :: s, t => passFrom_length s t

theorem pass_char {c : Char} (hc : c ≠ '&') (t : Text) : d.pass (c :: t) = c :: d.pass t := by
  simp [pass, passFrom, hc]

theorem pass_placeholder (free : '&' ∉ name) (defined : d.get? ('&' :: name ++ ['&']) = some value)
    (t : Text) : d.pass ('&' :: name ++ '&' :: t) = value ++ d.pass t := by
  have hopen : d.opened? (name ++ '&' :: t) = some (value, name.length + 1) :=
    opened?_eq_some.2 ⟨name, t, rfl, free, defined, rfl⟩
  have hskip := passFrom_length (d := d) (name ++ ['&']) t
  simp only [List.length_append, List.length_singleton, List.append_assoc,
    List.singleton_append] at hskip
  simp [pass, passFrom, hopen, hskip]

/-- A pass does not look behind a text that is made of placeholders. -/
theorem pass_append {s : Text} (hs : Composed d.Defines s) (t : Text) :
    d.pass (s ++ t) = d.pass s ++ d.pass t := by
  induction hs with
  | nil => rfl
  | char hc _ ih => rw [List.cons_append, pass_char hc, pass_char hc, ih, List.cons_append]
  | @placeholder name rest free hname _ ih =>
    obtain ⟨value, hvalue⟩ := hname
    calc d.pass ('&' :: name ++ '&' :: rest ++ t)
        = d.pass ('&' :: name ++ '&' :: (rest ++ t)) := by simp
      _ = value ++ d.pass (rest ++ t) := pass_placeholder free hvalue _
      _ = d.pass ('&' :: name ++ '&' :: rest) ++ d.pass t := by
        rw [ih, pass_placeholder free hvalue, List.append_assoc]

end Pass

section Levels

variable {d : Dictionary} {level : Text → Nat} {k : Nat} {t u : Text}

/-- The placeholders in a value are below the levels that the value is below. -/
theorem Levelled.composed {name value : Text} (hlevel : d.Levelled level) (free : '&' ∉ name)
    (hvalue : d.get? ('&' :: name ++ ['&']) = some value) (hk : level name < k + 1) :
    Composed (d.Below level k) value := by
  refine (hlevel name value free hvalue).2.mono ?_
  rintro inner - ⟨hinner, hlt⟩
  exact ⟨hinner, by omega⟩

/-- One pass takes the highest level away. -/
theorem Composed.pass (hlevel : d.Levelled level) (ht : Composed (d.Below level (k + 1)) t) :
    Composed (d.Below level k) (d.pass t) := by
  induction ht with
  | nil => exact .nil
  | char hc _ ih =>
    rw [pass_char hc]
    exact .char hc ih
  | placeholder name free hname _ ih =>
    obtain ⟨⟨value, hvalue⟩, hk⟩ := hname
    rw [pass_placeholder free hvalue]
    exact (hlevel.composed free hvalue hk).append ih

/-- After as many passes as there are levels no `&` is left. -/
theorem Composed.iterate (hlevel : d.Levelled level) :
    ∀ (k : Nat) {t : Text}, Composed (d.Below level k) t → '&' ∉ d.pass^[k] t
  | 0, t, ht => by
    induction ht with
    | nil => simp
    | char hc _ ih => simpa using ⟨Ne.symm hc, ih⟩
    | placeholder _ _ hname => exact absurd hname.2 (Nat.not_lt_zero _)
  | k + 1, _, ht => Composed.iterate hlevel k (ht.pass hlevel)

theorem Composed.exists_expands_of {known : Text → Prop}
    (hvalues : ∀ name, '&' ∉ name → known name →
      ∃ value v, d.get? ('&' :: name ++ ['&']) = some value ∧ Expands d value v)
    (ht : Composed known t) : ∃ u, Expands d t u := by
  induction ht with
  | nil => exact ⟨[], .nil⟩
  | char hc _ ih =>
    obtain ⟨u, hu⟩ := ih
    exact ⟨_, .char hc hu⟩
  | placeholder name free hname _ ih =>
    obtain ⟨value, v, hvalue, hv⟩ := hvalues name free hname
    obtain ⟨u, hu⟩ := ih
    exact ⟨_, .placeholder free hvalue hv hu⟩

/-- A text stands for something when its placeholders have levels. -/
theorem Composed.exists_expands (hlevel : d.Levelled level) : ∀ (k : Nat) {t : Text},
    Composed (d.Below level k) t → ∃ u, Expands d t u
  | 0, _, ht => ht.exists_expands_of fun _ _ h => absurd h.2 (Nat.not_lt_zero _)
  | k + 1, _, ht => by
    refine ht.exists_expands_of fun name free hname => ?_
    obtain ⟨⟨value, hvalue⟩, hk⟩ := hname
    obtain ⟨v, hv⟩ := Composed.exists_expands hlevel k (hlevel.composed free hvalue hk)
    exact ⟨value, v, hvalue, hv⟩

end Levels

namespace Expands

variable {d : Dictionary} {s t u v : Text}

theorem append (hs : Expands d s v) (ht : Expands d t u) : Expands d (s ++ t) (v ++ u) := by
  induction hs with
  | nil => exact ht
  | char hc _ ih => exact .char hc ih
  | placeholder free defined inner _ _ ih =>
    rw [List.append_assoc, List.append_assoc]
    exact .placeholder free defined inner ih

/-- A pass changes nothing about what a text stands for. -/
theorem pass (h : Expands d t u) : Expands d (d.pass t) u := by
  induction h with
  | nil => exact .nil
  | char hc _ ih =>
    rw [pass_char hc]
    exact .char hc ih
  | placeholder free defined inner _ _ ih =>
    rw [pass_placeholder free defined]
    exact inner.append ih

theorem iterate : ∀ (k : Nat) {t : Text}, Expands d t u → Expands d (d.pass^[k] t) u
  | 0, _, h => h
  | k + 1, _, h => iterate k h.pass

theorem eq_of_free (h : Expands d t u) (ht : '&' ∉ t) : u = t := by
  induction h with
  | nil => rfl
  | char _ _ ih => rw [ih fun hm => ht (List.mem_cons_of_mem _ hm)]
  | placeholder => simp at ht

end Expands

/-- In a dictionary whose values are nested in levels from 0 to 9, resolving a text gives all that
the text stands for, and no `&` is left. In every dictionary resolving is ten passes. -/
theorem expands_iff_resolve (d : Dictionary) :
    (∀ level, d.Levelled level → ∀ t, Composed d.Defines t →
      (∀ u, Expands d t u ↔ u = d.resolve t) ∧ '&' ∉ d.resolve t ∧
        d.resolve (d.resolve t) = d.resolve t) ∧
    ∀ t, d.resolve t = d.pass^[10] t := by
  have hiterate : ∀ t, d.resolve t = d.pass^[10] t := resolveWithin_eq_iterate maxPasses
  refine ⟨fun level hlevel t ht => ?_, hiterate⟩
  have hbelow : Composed (d.Below level 10) t := by
    refine ht.mono ?_
    rintro name free ⟨value, hvalue⟩
    have hle := (hlevel name value free hvalue).1
    exact ⟨⟨value, hvalue⟩, by omega⟩
  have hfree : '&' ∉ d.resolve t := by
    rw [hiterate]
    exact Composed.iterate hlevel 10 hbelow
  have hunique : ∀ u, Expands d t u → u = d.resolve t := by
    intro u hu
    rw [hiterate] at hfree ⊢
    exact (Expands.iterate 10 hu).eq_of_free hfree
  refine ⟨fun u => ⟨hunique u, ?_⟩, hfree, resolve_eq_self hfree⟩
  rintro rfl
  obtain ⟨u, hu⟩ := Composed.exists_expands hlevel 10 hbelow
  rwa [← hunique u hu]

/-- Ten levels, one above the other, and an empty value. -/
def tenLevels : Dictionary :=
  ⟨[("&e&", []), ("&0&", "x"), ("&1&", "&0&&e&&0&"), ("&2&", "<&1&>"), ("&3&", "&2&"),
    ("&4&", "&3&"), ("&5&", "&4&"), ("&6&", "&5&"), ("&7&", "&6&"), ("&8&", "&7&"), ("&9&", "&8&")]⟩

/-- The level of a digit is the digit. -/
def digitLevel : Text → Nat
  | [c] => if c.isDigit then c.toNat - '0'.toNat else 0
  | _ => 0

theorem levelled_tenLevels : tenLevels.Levelled digitLevel := by
  intro name value _ hget
  have hbelow : ∀ {inner k}, (tenLevels.get? ('&' :: inner ++ ['&'])).isSome = true →
      digitLevel inner < k → tenLevels.Below digitLevel k inner :=
    fun hsome hlt => ⟨Option.isSome_iff_exists.1 hsome, hlt⟩
  obtain ⟨before, after, hentries, -⟩ := List.lookup_eq_some_iff.1 hget
  have hmem : ('&' :: name ++ ['&'], value) ∈ tenLevels.entries := by rw [hentries]; simp
  have hname : ∀ {c : Char}, '&' :: name ++ ['&'] = ['&', c, '&'] → name = [c] := by
    intro c h
    have hrest : name ++ ['&'] = [c] ++ ['&'] := (List.cons.inj h).2
    exact List.append_cancel_right hrest
  simp only [tenLevels, List.mem_cons, Prod.mk.injEq, List.not_mem_nil, or_false] at hmem
  rcases hmem with ⟨h, rfl⟩ | ⟨h, rfl⟩ | ⟨h, rfl⟩ | ⟨h, rfl⟩ | ⟨h, rfl⟩ | ⟨h, rfl⟩ | ⟨h, rfl⟩ |
    ⟨h, rfl⟩ | ⟨h, rfl⟩ | ⟨h, rfl⟩ | ⟨h, rfl⟩ <;>
    obtain rfl := hname h <;> refine ⟨by decide, ?_⟩
  · exact .nil
  · exact .of_free (by decide)
  · exact .placeholder ['0'] (by decide) (hbelow (by decide) (by decide))
      (.placeholder ['e'] (by decide) (hbelow (by decide) (by decide))
        (.placeholder ['0'] (by decide) (hbelow (by decide) (by decide)) .nil))
  · exact .char (by decide) (.placeholder ['1'] (by decide)
      (hbelow (by decide) (by decide)) (.of_free (by decide)))
  · exact .placeholder ['2'] (by decide) (hbelow (by decide) (by decide)) .nil
  · exact .placeholder ['3'] (by decide) (hbelow (by decide) (by decide)) .nil
  · exact .placeholder ['4'] (by decide) (hbelow (by decide) (by decide)) .nil
  · exact .placeholder ['5'] (by decide) (hbelow (by decide) (by decide)) .nil
  · exact .placeholder ['6'] (by decide) (hbelow (by decide) (by decide)) .nil
  · exact .placeholder ['7'] (by decide) (hbelow (by decide) (by decide)) .nil
  · exact .placeholder ['8'] (by decide) (hbelow (by decide) (by decide)) .nil

theorem expands_iff_resolve_tenLevels :
    tenLevels.Levelled digitLevel ∧ Composed tenLevels.Defines "&9&&e& &0&" ∧
      Expands tenLevels "&9&&e& &0&" "<xx> x" ∧ '&' ∉ tenLevels.resolve "&9&&e& &0&" := by
  have hdefines : ∀ {name}, (tenLevels.get? ('&' :: name ++ ['&'])).isSome = true →
      tenLevels.Defines name := Option.isSome_iff_exists.1
  have htext : Composed tenLevels.Defines "&9&&e& &0&" :=
    .placeholder ['9'] (by decide) (hdefines (by decide))
      (.placeholder ['e'] (by decide) (hdefines (by decide))
        (.char (by decide) (.placeholder ['0'] (by decide) (hdefines (by decide)) .nil)))
  obtain ⟨hiff, hfree, -⟩ :=
    (expands_iff_resolve tenLevels).1 digitLevel levelled_tenLevels _ htext
  exact ⟨levelled_tenLevels, htext, (hiff _).2 (by decide), hfree⟩

/-- An eleventh level is one too many. -/
example : (tenLevels.insert "&a&" "&9&").resolve "&a&" = "<&0&&e&&0&>" := by decide

end Dictionary

end SqlBuild
