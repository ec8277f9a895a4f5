import Mathlib.Data.List.TakeWhile
import Mathlib.Logic.Function.Iterate
import SqlBuild.Run.Context

/-!
# Placeholders are resolved locally

No placeholder reaches over a character that stands in no name, so a text cut at such a character is
resolved by resolving the two sides of the cut (`resolve_append_cons`). One pass has this property
because a `&` opens the same placeholder whatever follows the cut (`opened?_append_cons`); resolving
is nothing but ten passes (`resolveWithin_eq_iterate`). What it looks up on these is all that it
depends on (`resolve_congr_asked`).
-/

namespace SqlBuild

namespace Dictionary

theorem closed?_eq_some {rest name : Text} :
    closed? rest = some name ↔ '&' ∉ name ∧ ∃ more, rest = name ++ '&' :: more := by
  unfold closed?
  constructor
  · intro h
    split at h
    · rename_i hmem
      obtain rfl := Option.some.inj h
      refine ⟨fun hin => by simpa using List.mem_takeWhile_imp hin, ?_⟩
      obtain ⟨c, more, hmore⟩ : ∃ c more, rest.dropWhile (· ≠ '&') = c :: more := by
        refine List.exists_cons_of_ne_nil fun hnil => ?_
        simpa using List.dropWhile_eq_nil_iff.1 hnil '&' hmem
      have hc : c = '&' := by
        have hstop := List.head?_dropWhile_not (· ≠ '&') rest
        rw [hmore] at hstop
        simpa using hstop
      have hsplit : rest.takeWhile (· ≠ '&') ++ rest.dropWhile (· ≠ '&') = rest :=
        List.takeWhile_append_dropWhile
      rw [hmore, hc] at hsplit
      exact ⟨more, hsplit.symm⟩
    · cases h
  · rintro ⟨hname, more, rfl⟩
    have hall : ∀ c ∈ name, decide (c ≠ '&') = true := by
      intro c hc
      exact decide_eq_true fun heq => hname (heq ▸ hc)
    rw [if_pos (by simp), List.takeWhile_append_of_pos hall]
    simp

variable {d : Dictionary} {c : Char}

theorem opened?_eq_some {rest value : Text} {k : Nat} :
    d.opened? rest = some (value, k) ↔ ∃ name more, rest = name ++ '&' :: more ∧ '&' ∉ name ∧
      d.get? ('&' :: name ++ ['&']) = some value ∧ k = name.length + 1 := by
  unfold opened?
  constructor
  · intro h
    obtain ⟨name, hname, h⟩ := Option.bind_eq_some_iff.1 h
    obtain ⟨found, hget, h⟩ := Option.bind_eq_some_iff.1 h
    obtain ⟨rfl, rfl⟩ := Prod.mk.inj (Option.some.inj h)
    obtain ⟨hfree, more, rfl⟩ := closed?_eq_some.1 hname
    exact ⟨name, more, rfl, hfree, hget, rfl⟩
  · rintro ⟨name, more, rfl, hfree, hget, rfl⟩
    have hname : closed? (name ++ '&' :: more) = some name := closed?_eq_some.2 ⟨hfree, more, rfl⟩
    rw [hname]
    simp only [Option.bind_eq_bind, Option.bind_some, hget]
    rfl

/-- What follows a text does not matter to the placeholder a `&` opens before it, when no name
reaches into what follows. -/
theorem opened?_append {b : Text} (hb : ∀ front more, b = front ++ '&' :: more →
    ∀ name, d.get? ('&' :: (name ++ front) ++ ['&']) = none) (a : Text) :
    d.opened? (a ++ b) = d.opened? a := by
  refine Option.ext fun ⟨value, k⟩ => ?_
  rw [opened?_eq_some, opened?_eq_some]
  constructor
  · rintro ⟨name, more, hsplit, hfree, hget, rfl⟩
    rcases List.append_eq_append_iff.1 hsplit with ⟨front, rfl, hrest⟩ | ⟨front, rfl, hrest⟩
    · -- The name reaches over the cut.
      rw [hb front more hrest a] at hget
      cases hget
    · cases front with
      | nil =>
        have hnone := hb [] more hrest.symm name
        rw [List.append_nil, hget] at hnone
        cases hnone
      | cons x front =>
        obtain rfl := (List.cons.inj hrest).1
        exact ⟨name, front, rfl, hfree, hget, rfl⟩
  · rintro ⟨name, more, rfl, hfree, hget, rfl⟩
    exact ⟨name, more ++ b, by simp, hfree, hget, rfl⟩

theorem opened?_append_cons (hc : c ≠ '&') (hd : ∀ e ∈ d.entries, c ∉ e.1) (a b : Text) :
    d.opened? (a ++ c :: b) = d.opened? a := by
  refine opened?_append (fun front more hsplit name => ?_) a
  cases front with
  | nil => exact absurd (List.cons.inj hsplit).1 hc
  | cons x front =>
    obtain rfl := (List.cons.inj hsplit).1
    refine List.lookup_eq_none_iff.2 fun e he => bne_iff_ne.2 fun heq => hd e he ?_
    rw [← heq]
    simp

/-- A pass goes over two texts one after the other when no placeholder reaches from the first into
the second. -/
theorem passFrom_append {b : Text} (hb : ∀ a, d.opened? (a ++ b) = d.opened? a) :
    ∀ (a : Text) (k : Nat), k ≤ a.length → d.passFrom k (a ++ b) = d.passFrom k a ++ d.pass b
  | [], 0, _ => by simp [passFrom, pass]
  | x :: a, k + 1, hk => by
    rw [List.cons_append, passFrom, passFrom]
    exact passFrom_append hb a k (Nat.le_of_succ_le_succ hk)
  | x :: a, 0, _ => by
    rw [List.cons_append, passFrom, passFrom, hb]
    by_cases hx : x = '&'
    · rw [if_pos hx, if_pos hx]
      cases hopen : d.opened? a with
      | none => exact congrArg _ (passFrom_append hb a 0 (Nat.zero_le _))
      | some found =>
        obtain ⟨value, k⟩ := found
        have hk : k ≤ a.length := by
          obtain ⟨name, more, rfl, -, -, rfl⟩ := opened?_eq_some.1 hopen
          simp
        simp [passFrom_append hb a k hk]
    · rw [if_neg hx, if_neg hx, passFrom_append hb a 0 (Nat.zero_le _)]
      rfl

theorem passFrom_append_cons (hc : c ≠ '&') (hd : ∀ e ∈ d.entries, c ∉ e.1) (b : Text)
    (a : Text) (k : Nat) (hk : k ≤ a.length) :
    d.passFrom k (a ++ c :: b) = d.passFrom k a ++ c :: d.pass b := by
  rw [passFrom_append (fun a => opened?_append_cons hc hd a b) a k hk]
  simp [pass, passFrom, hc]

theorem pass_eq_self : ∀ {t : Text}, '&' ∉ t → d.pass t = t
  | [], _ => rfl
  | x :: t, h => by
    have hx : x ≠ '&' := fun heq => h (heq ▸ List.mem_cons_self)
    have ih : d.passFrom 0 t = t := pass_eq_self fun hm => h (List.mem_cons_of_mem _ hm)
    rw [pass, passFrom, if_neg hx, ih]

/-- Ending early never changes what ten passes would give. -/
theorem resolveWithin_eq_iterate : ∀ (n : Nat) (t : Text), d.resolveWithin n t = d.pass^[n] t
  | 0, _ => rfl
  | n + 1, t => by
    unfold resolveWithin
    by_cases hamp : '&' ∈ t
    · by_cases hfix : d.pass t = t
      · simp [hamp, hfix, Function.iterate_fixed hfix]
      · simp [hamp, hfix, resolveWithin_eq_iterate n]
    · simp [hamp, Function.iterate_fixed (pass_eq_self hamp)]

theorem resolve_append_cons (hc : c ≠ '&') (hd : ∀ e ∈ d.entries, c ∉ e.1) (a b : Text) :
    d.resolve (a ++ c :: b) = d.resolve a ++ c :: d.resolve b := by
  simp only [resolve, resolveWithin_eq_iterate]
  induction maxPasses generalizing a b with
  | zero => rfl
  | succ n ih =>
    have hpass : d.pass (a ++ c :: b) = d.pass a ++ c :: d.pass b :=
      passFrom_append_cons hc hd b a 0 (Nat.zero_le _)
    simp only [Function.iterate_succ_apply, hpass, ih]

theorem resolve_eq_self {t : Text} (h : '&' ∉ t) : d.resolve t = t := by
  rw [resolve, resolveWithin_eq_iterate, Function.iterate_fixed (pass_eq_self h)]

/-- The placeholders that a pass looks up, after passing over the next `k` characters. -/
def asksFrom (d : Dictionary) : Nat → Text → List Text
  | _, [] => []
  | k + 1, _ :: rest => asksFrom d k rest
  | 0, c :: rest =>
    match if c = '&' then closed? rest else none with
    | none => asksFrom d 0 rest
    | some name =>
      let token := '&' :: name ++ ['&']
      token :: asksFrom d (if (d.get? token).isSome then name.length + 1 else 0) rest

/-- The placeholders that `n` passes look up. -/
def asked (d : Dictionary) : Nat → Text → List Text
  | 0, _ => []
  | n + 1, t => d.asksFrom 0 t ++ asked d n (d.pass t)

section Asked

variable {d d' : Dictionary}

theorem opened?_of_closed? {rest name : Text} (h : closed? rest = some name) :
    d.opened? rest = (d.get? ('&' :: name ++ ['&'])).map fun value => (value, name.length + 1) := by
  rw [opened?, h, Option.map_eq_bind]
  rfl

theorem opened?_of_not_closed? {rest : Text} (h : closed? rest = none) : d.opened? rest = none := by
  rw [opened?, h]
  rfl

/-- A pass depends on the values of the placeholders it looks up. -/
theorem passFrom_congr_asked : ∀ (t : Text) (k : Nat),
    (∀ token ∈ d.asksFrom k t, d'.get? token = d.get? token) → d'.passFrom k t = d.passFrom k t
  | [], k, _ => by rw [passFrom, passFrom]
  | c :: rest, k + 1, h => by
    rw [passFrom, passFrom]
    rw [asksFrom] at h
    exact passFrom_congr_asked rest k h
  | c :: rest, 0, h => by
    rw [passFrom, passFrom]
    rw [asksFrom] at h
    by_cases hc : c = '&'
    · rw [if_pos hc] at h ⊢
      rw [if_pos hc]
      cases hclosed : closed? rest with
      | none =>
        rw [hclosed] at h
        rw [opened?_of_not_closed? hclosed, opened?_of_not_closed? hclosed]
        exact congrArg ('&' :: ·) (passFrom_congr_asked rest 0 h)
      | some name =>
        rw [hclosed] at h
        obtain ⟨htoken, hrest⟩ := List.forall_mem_cons.1 h
        rw [opened?_of_closed? hclosed, opened?_of_closed? hclosed, htoken]
        cases hget : d.get? ('&' :: name ++ ['&']) with
        | none =>
          rw [hget] at hrest
          exact congrArg ('&' :: ·) (passFrom_congr_asked rest 0 hrest)
        | some value =>
          rw [hget] at hrest
          exact congrArg (value ++ ·) (passFrom_congr_asked rest _ hrest)
    · rw [if_neg hc] at h ⊢
      rw [if_neg hc]
      exact congrArg (c :: ·) (passFrom_congr_asked rest 0 h)

theorem iterate_congr_asked : ∀ (n : Nat) {t : Text},
    (∀ token ∈ d.asked n t, d'.get? token = d.get? token) → d'.pass^[n] t = d.pass^[n] t
  | 0, _, _ => rfl
  | n + 1, t, h => by
    rw [asked] at h
    have hpass : d'.pass t = d.pass t :=
      passFrom_congr_asked t 0 fun token ht => h token (List.mem_append_left _ ht)
    rw [Function.iterate_succ_apply, Function.iterate_succ_apply, hpass]
    exact iterate_congr_asked n fun token ht => h token (List.mem_append_right _ ht)

/-- Resolving depends on the values of the placeholders that are looked up on the way. -/
theorem resolve_congr_asked {t : Text}
    (h : ∀ token ∈ d.asked maxPasses t, d'.get? token = d.get? token) :
    d'.resolve t = d.resolve t := by
  rw [resolve, resolve, resolveWithin_eq_iterate, resolveWithin_eq_iterate]
  exact iterate_congr_asked maxPasses h

end Asked

end Dictionary

namespace Context

variable {ctx : Context} {c : Char}

/-- The character stands in no name of the options. -/
def Separates (ctx : Context) (c : Char) : Prop :=
  ∀ d, ctx.options.dictionary = some d → ∀ e ∈ d.entries, c ∉ e.1

theorem resolveWord_append_cons (h : ctx.Separates c) (hc : c ≠ '&') (a b : Text) :
    ctx.resolveWord (a ++ c :: b) = ctx.resolveWord a ++ c :: ctx.resolveWord b := by
  unfold resolveWord resolve OptionSet.resolve OptionSet.resolveWord
  split
  · rfl
  · cases hd : ctx.options.dictionary with
    | none => rfl
    | some d => exact Dictionary.resolve_append_cons hc (h d hd) a b

theorem resolveWord_eq_self {t : Text} (h : '&' ∉ t) : ctx.resolveWord t = t := by
  unfold resolveWord resolve OptionSet.resolve OptionSet.resolveWord
  split
  · rfl
  · cases ctx.options.dictionary with
    | none => rfl
    | some d => exact Dictionary.resolve_eq_self h

end Context

end SqlBuild
