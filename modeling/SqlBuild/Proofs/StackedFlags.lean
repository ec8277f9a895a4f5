import Mathlib.Tactic.SplitIfs
import SqlBuild.CommandLine.Grammar

/-!
# Flags on top of flags

Reading words looks at what has been given before only to refuse a flag given twice. So words that
are read once are read in the same way after other flags, and give the same on top of those
(`Stacks`, `isStacking_step`). A flag whose value is not settled yet may just as well be settled
before the next word is read (`settlesFirst_step`); only the dashes that end the flags leave it as
it is.
-/

namespace SqlBuild

namespace Grammar

variable {g : Grammar}

theorem exists_of_bind_eq_ok {ε α β : Type} {x : Except ε α} {f : α → Except ε β} {b : β}
    (h : x >>= f = .ok b) : ∃ a, x = .ok a ∧ f a = .ok b := by
  cases x with
  | error e => cases h
  | ok a => exact ⟨a, rfl, h⟩

/-- The flags that are pending are flags of the grammar. -/
def Pends (g : Grammar) (r : Reading) : Prop := ∀ p ∈ r.pending, p.1 ∈ g.flags

/-- What a reader does to a reading it does whatever has been given before: it puts the values of
flags on top, and it goes through as long as these are new. -/
structure Stacks (g : Grammar) (reader : Reading → Except UsageError Reading) (r r₁ : Reading)
    (values : List (Text × Text)) : Prop where
  pends : g.Pends r₁
  given : r₁.given = values ++ r.given
  fresh : ∀ v ∈ values, r.given.lookup v.1 = none
  flag : ∀ v ∈ values, ∃ flag ∈ g.flags, v.1 = flag.long ∧
    (flag.takes = .number → (Text.signed? 64 v.2).isSome = true)
  again : ∀ given, (∀ v ∈ values, given.lookup v.1 = none) →
    reader { r with given } = .ok { r₁ with given := values ++ given }

/-- A reader that does so wherever it goes through. -/
def IsStacking (g : Grammar) (reader : Reading → Except UsageError Reading) : Prop :=
  ∀ r r₁, g.Pends r → reader r = .ok r₁ → ∃ values, Stacks g reader r r₁ values

section Readers

variable {reader reader' : Reading → Except UsageError Reading} {flag : Flag}

theorem isStacking_error (e : UsageError) : IsStacking g fun _ => .error e :=
  fun _ _ _ h => by cases h

/-- A change that leaves alone what has been given. -/
theorem isStacking_ok {change : Reading → Reading}
    (hgiven : ∀ r given, change { r with given } = { change r with given })
    (hpends : ∀ r, g.Pends r → g.Pends (change r)) : IsStacking g fun r => .ok (change r) := by
  intro r r₁ hr h
  obtain rfl := Except.ok.inj h
  have hkept : (change r).given = r.given := by
    rw [show change r = { change r with given := r.given } from hgiven r r.given]
  exact ⟨[], hpends r hr, hkept, nofun, nofun, fun given _ => congrArg Except.ok (hgiven r given)⟩

theorem IsStacking.bind (h : IsStacking g reader) (h' : IsStacking g reader') :
    IsStacking g fun r => reader r >>= reader' := by
  intro r r₂ hr hread
  obtain ⟨r₁, hr₁, hr₂⟩ := exists_of_bind_eq_ok hread
  obtain ⟨values, hs⟩ := h r r₁ hr hr₁
  obtain ⟨values', hs'⟩ := h' r₁ r₂ hs.pends hr₂
  have hfresh : ∀ v ∈ values', values.lookup v.1 = none ∧ r.given.lookup v.1 = none :=
    fun v hv => by
      have hnew := hs'.fresh v hv
      rwa [hs.given, List.lookup_append, Option.or_eq_none_iff] at hnew
  refine ⟨values' ++ values, hs'.pends, by rw [hs'.given, hs.given, List.append_assoc],
    List.forall_mem_append.2 ⟨fun v hv => (hfresh v hv).2, hs.fresh⟩,
    List.forall_mem_append.2 ⟨hs'.flag, hs.flag⟩, fun given hgiven => ?_⟩
  obtain ⟨hnew', hnew⟩ := List.forall_mem_append.1 hgiven
  rw [hs.again given hnew, List.append_assoc]
  refine hs'.again _ fun v hv => ?_
  rw [List.lookup_append, (hfresh v hv).1, hnew' v hv]
  rfl

/-- What a reader does may depend on everything but what has been given. -/
theorem IsStacking.of_frame (h : ∀ r, g.Pends r → ∃ reader', IsStacking g reader' ∧
    ∀ given, reader { r with given } = reader' { r with given }) : IsStacking g reader := by
  intro r r₁ hr hread
  obtain ⟨reader', hstacks, hsame⟩ := h r hr
  obtain ⟨values, hs⟩ := hstacks r r₁ hr ((hsame r.given).symm.trans hread)
  exact ⟨values, hs.pends, hs.given, hs.fresh, hs.flag, fun given hnew =>
    (hsame given).trans (hs.again given hnew)⟩

theorem isStacking_give (hflag : flag ∈ g.flags) (value : Text) :
    IsStacking g fun r => r.give flag value := by
  intro r r₁ hr h
  simp only [Reading.give] at h
  split_ifs at h with hgiven hnumber
  obtain rfl := Except.ok.inj h
  refine ⟨[(flag.long, value)], hr, rfl, ?_, ?_, fun given hnew => ?_⟩
  · rw [List.forall_mem_singleton]
    exact Option.not_isSome_iff_eq_none.1 hgiven
  · rw [List.forall_mem_singleton]
    refine ⟨flag, hflag, rfl, fun htakes => ?_⟩
    rw [Option.isSome_iff_ne_none]
    exact fun hnone => hnumber ⟨htakes, by rw [hnone]; rfl⟩
  · have hnew' : given.lookup flag.long = none := hnew _ List.mem_cons_self
    simp only [Reading.give, hnew', hnumber]
    rfl

theorem isStacking_react (hflag : flag ∈ g.flags) (value : Option Text) :
    IsStacking g fun r => r.react flag value := by
  unfold Reading.react
  split
  · exact isStacking_error _
  · exact isStacking_error _
  · exact isStacking_give hflag _
  · exact isStacking_give hflag _
  · exact isStacking_give hflag _
  · exact isStacking_error _

theorem isStacking_settle : IsStacking g Reading.settle := by
  refine .of_frame fun r hr => ?_
  cases hpending : r.pending with
  | none =>
    exact ⟨fun r => .ok r, isStacking_ok (fun _ _ => rfl) fun _ => id, fun _ => rfl⟩
  | some p =>
    have hchange : IsStacking g fun r => .ok { r with pending := none, awaiting := false } :=
      isStacking_ok (fun _ _ => rfl) fun _ _ => nofun
    exact ⟨_, hchange.bind (isStacking_react (hr p hpending) p.2), fun _ => rfl⟩

theorem isStacking_expectValue (hflag : flag ∈ g.flags) (attached : Option Text) :
    IsStacking g fun r => r.expectValue flag attached := by
  refine isStacking_settle.bind ?_
  cases attached with
  | some value => exact isStacking_react hflag _
  | none =>
    refine isStacking_ok (fun _ _ => rfl) fun r _ p hp => ?_
    obtain rfl := Option.some.inj hp
    exact hflag

theorem isStacking_meet (hflag : flag ∈ g.flags) : IsStacking g fun r => r.meet flag :=
  isStacking_settle.bind (isStacking_react hflag none)

theorem isStacking_positional (word : Text) : IsStacking g fun r => g.positional r word := by
  refine .of_frame fun r hr => ?_
  by_cases hroom : r.positionals.length < g.positionals
  · have hchange : IsStacking g fun r =>
        .ok { r with positionals := r.positionals ++ [word], awaiting := false } :=
      isStacking_ok (fun _ _ => rfl) fun _ => id
    exact ⟨_, isStacking_settle.bind hchange, fun _ => if_pos hroom⟩
  · by_cases hrest : g.takesRest = true
    · have hchange : IsStacking g fun r =>
          .ok { r with rest := r.rest ++ [word], awaiting := false, trailing := true } :=
        isStacking_ok (fun _ _ => rfl) fun _ => id
      exact ⟨_, isStacking_settle.bind hchange, fun _ => (if_neg hroom).trans (if_pos hrest)⟩
    · exact ⟨_, isStacking_error .unknownArgument,
        fun _ => (if_neg hroom).trans (if_neg hrest)⟩

theorem isStacking_plain (word : Text) : IsStacking g fun r => g.plain r word := by
  refine .of_frame fun r hr => ?_
  cases hpending : r.pending with
  | none =>
    exact ⟨_, isStacking_positional word, fun _ => rfl⟩
  | some p =>
    cases hawaiting : r.awaiting with
    | false =>
      exact ⟨_, isStacking_positional word, fun _ => rfl⟩
    | true =>
      have hchange : IsStacking g fun r =>
          .ok { r with pending := some (p.1, some word), awaiting := false } :=
        isStacking_ok (fun _ _ => rfl) fun _ _ q hq => by
          obtain rfl := Option.some.inj hq
          exact hr p hpending
      exact ⟨_, hchange, fun _ => rfl⟩

theorem isStacking_shorts : ∀ letters : Text, IsStacking g fun r => g.shorts r letters
  | [] => isStacking_ok (fun _ _ => rfl) fun _ => id
  | c :: letters => by
    simp only [shorts]
    cases hfound : g.findShort? c with
    | none => exact isStacking_error _
    | some flag =>
      have hflag : flag ∈ g.flags := List.mem_of_find?_eq_some hfound
      simp only []
      split_ifs
      · exact isStacking_expectValue hflag _
      · exact (isStacking_meet hflag).bind (isStacking_shorts letters)

theorem isStacking_long (word body : Text) : IsStacking g fun r => g.long r word body := by
  refine .of_frame fun r hr => ?_
  simp only [long]
  cases hfound : g.findLong? (body.takeWhile (· ≠ '=')) with
  | none =>
    simp only []
    by_cases hdashes : g.takesDashes r = true
    · exact ⟨_, isStacking_plain word, fun given => if_pos hdashes⟩
    · exact ⟨_, isStacking_error .unknownArgument, fun given => if_neg hdashes⟩
  | some flag =>
    have hflag : flag ∈ g.flags := List.mem_of_find?_eq_some hfound
    simp only []
    split
    · exact ⟨_, isStacking_expectValue hflag _, fun _ => rfl⟩
    · split
      · exact ⟨_, isStacking_error _, fun _ => rfl⟩
      · exact ⟨_, isStacking_meet hflag, fun _ => rfl⟩

theorem isStacking_step (word : Text) : IsStacking g fun r => g.step r word := by
  refine .of_frame fun r hr => ?_
  cases htrailing : r.trailing with
  | true => exact ⟨_, isStacking_positional word, fun _ => rfl⟩
  | false =>
    simp only [step, Bool.false_eq_true, if_false]
    split
    · have hchange : IsStacking g fun r => .ok { r with trailing := true } :=
        isStacking_ok (fun _ _ => rfl) fun _ => id
      exact ⟨_, hchange, fun _ => rfl⟩
    · exact ⟨_, isStacking_long _ _, fun _ => rfl⟩
    · rename_i c letters _ _
      by_cases hdashes : (g.takesDashes r &&
          (c :: letters).any fun d => (g.findShort? d).isNone) = true
      · exact ⟨_, isStacking_plain _, fun given => if_pos hdashes⟩
      · exact ⟨_, isStacking_shorts _, fun given => if_neg hdashes⟩
    · exact ⟨_, isStacking_plain _, fun _ => rfl⟩

theorem isStacking_foldlM : ∀ words : List Text, IsStacking g fun r => words.foldlM g.step r
  | [] => isStacking_ok (fun _ _ => rfl) fun _ => id
  | word :: words => by
    simp only [List.foldlM_cons]
    exact (isStacking_step word).bind (isStacking_foldlM words)

end Readers

section Settling

variable {r s : Reading}

theorem react_eq {r₁ : Reading} {flag : Flag} {value : Option Text}
    (h : r.react flag value = .ok r₁) : r₁ = { r with given := r₁.given } := by
  have hgive : ∀ value, r.give flag value = .ok r₁ → r₁ = { r with given := r₁.given } :=
    fun value h => by
      unfold Reading.give at h
      split_ifs at h
      rw [← Except.ok.inj h]
  unfold Reading.react at h
  split at h
  · cases h
  · cases h
  · exact hgive _ h
  · exact hgive _ h
  · exact hgive _ h
  · cases h

theorem settle_eq (h : r.settle = .ok s) (hawaiting : r.awaiting = false) :
    s = { r with given := s.given, pending := none } := by
  unfold Reading.settle at h
  split at h
  · rename_i hpending
    rw [← Except.ok.inj h, ← hpending]
  · rw [react_eq h, hawaiting]

theorem trailing_of_settle (h : r.settle = .ok s) : s.trailing = r.trailing := by
  unfold Reading.settle at h
  split at h
  · rw [← Except.ok.inj h]
  · rw [react_eq h]

theorem settle_settled (hpending : s.pending = none) : s.settle = .ok s := by
  rw [Reading.settle, hpending]

theorem react_trailing (r : Reading) (flag : Flag) (value : Option Text) :
    { r with trailing := true }.react flag value =
      (r.react flag value).map fun s => { s with trailing := true } := by
  have hgive : ∀ value, { r with trailing := true }.give flag value =
      (r.give flag value).map fun s => { s with trailing := true } := fun value => by
    unfold Reading.give
    split_ifs <;> rfl
  unfold Reading.react
  split
  · rfl
  · rfl
  · exact hgive _
  · exact hgive _
  · exact hgive _
  · rfl

theorem settle_trailing : ∀ r : Reading, { r with trailing := true }.settle =
    r.settle.map fun s => { s with trailing := true }
  | { pending := none, .. } => rfl
  | { given, pending := some (flag, value), positionals, rest, trailing, .. } =>
    react_trailing { given, positionals, rest, trailing } flag value

/-- A reader goes through only after the pending flag is settled, and then as if that had happened
before. -/
def SettlesFirst (reader : Reading → Except UsageError Reading) (r : Reading) : Prop :=
  (∀ r₁, reader r = .ok r₁ → ∃ s, r.settle = .ok s) ∧ ∀ s, r.settle = .ok s → reader r = reader s

theorem settlesFirst_error (e : UsageError) : SettlesFirst (fun _ => .error e) r :=
  ⟨nofun, fun _ _ => rfl⟩

theorem settlesFirst_bind (hawaiting : r.awaiting = false)
    (next : Reading → Except UsageError Reading) : SettlesFirst (fun r => r.settle >>= next) r := by
  refine ⟨fun r₁ h => ?_, fun s hs => ?_⟩
  · obtain ⟨s, hs, -⟩ := exists_of_bind_eq_ok h
    exact ⟨s, hs⟩
  · have hpending : s.pending = none := by rw [settle_eq hs hawaiting]
    simp only [hs, settle_settled hpending]

/-- A reader told by others for the reading and for what it is when settled. -/
theorem SettlesFirst.congr {reader reader' : Reading → Except UsageError Reading}
    (h : SettlesFirst reader' r) (hr : reader r = reader' r)
    (hs : ∀ s, r.settle = .ok s → reader s = reader' s) : SettlesFirst reader r :=
  ⟨fun r₁ h₁ => h.1 r₁ (hr.symm.trans h₁), fun s h₁ => (hr.trans (h.2 s h₁)).trans (hs s h₁).symm⟩

theorem SettlesFirst.ite {reader reader' : Reading → Except UsageError Reading}
    (h : r.trailing = true → SettlesFirst reader r)
    (h' : r.trailing = false → SettlesFirst reader' r) :
    SettlesFirst (fun r => if r.trailing then reader r else reader' r) r := by
  by_cases hr : r.trailing = true
  · exact (h hr).congr (if_pos hr) fun s hs => if_pos (by rw [trailing_of_settle hs, hr])
  · exact (h' (Bool.eq_false_iff.2 hr)).congr (if_neg hr) fun s hs =>
      if_neg (by rwa [trailing_of_settle hs])

theorem settlesFirst_shorts (hawaiting : r.awaiting = false) (c : Char) (letters : Text) :
    SettlesFirst (fun r => g.shorts r (c :: letters)) r := by
  simp only [shorts]
  cases g.findShort? c with
  | none => exact settlesFirst_error _
  | some flag =>
    simp only []
    split_ifs
    · exact settlesFirst_bind hawaiting _
    · simp only [Reading.meet, bind_assoc]
      exact settlesFirst_bind hawaiting _

variable (hg : g.takesRest = false) (hawaiting : r.awaiting = false)

include hg hawaiting

theorem settlesFirst_positional (word : Text) : SettlesFirst (fun r => g.positional r word) r := by
  have hpositionals : ∀ s, r.settle = .ok s → s.positionals = r.positionals := fun s hs => by
    rw [settle_eq hs hawaiting]
  by_cases hroom : r.positionals.length < g.positionals
  · refine (settlesFirst_bind hawaiting _).congr (if_pos hroom) fun s hs => ?_
    exact if_pos (by rwa [hpositionals s hs])
  · refine (settlesFirst_error .unknownArgument).congr ?_ fun s hs => ?_
    · simp [positional, hroom, hg]
    · simp [positional, hpositionals s hs, hroom, hg]

theorem settlesFirst_plain (word : Text) : SettlesFirst (fun r => g.plain r word) r := by
  refine (settlesFirst_positional hg hawaiting word).congr ?_ fun s hs => ?_
  · unfold plain
    rw [hawaiting]
    split <;> rfl
  · rw [settle_eq hs hawaiting]
    rfl

theorem settlesFirst_long (word body : Text) : SettlesFirst (fun r => g.long r word body) r := by
  simp only [long]
  cases g.findLong? (body.takeWhile (· ≠ '=')) with
  | none =>
    refine (settlesFirst_error .unknownArgument).congr ?_ fun s hs => ?_
    · simp [takesDashes, hg]
    · simp [takesDashes, hg]
  | some flag =>
    simp only []
    split
    · exact settlesFirst_bind hawaiting _
    · split
      · exact settlesFirst_error _
      · exact settlesFirst_bind hawaiting _

/-- Every word settles what is pending, but for the dashes that end the flags. -/
theorem settlesFirst_step {word : Text} (hword : r.trailing = true ∨ word ≠ ['-', '-']) :
    SettlesFirst (fun r => g.step r word) r := by
  refine .ite (fun _ => settlesFirst_positional hg hawaiting word) fun hr => ?_
  have hdashes : ∀ r, g.takesDashes r = false := fun r => by simp [takesDashes, hg]
  split
  · exact absurd rfl (hword.resolve_left (Bool.eq_false_iff.1 hr))
  · exact settlesFirst_long hg hawaiting _ _
  · simp only [hdashes]
    exact settlesFirst_shorts hawaiting _ _
  · exact settlesFirst_plain hg hawaiting _

/-- A reading and what it is when settled: the next word makes no difference between them, or leaves
the one to be settled to the other still. -/
theorem step_settled {s : Reading} (hs : r.settle = .ok s) (word : Text) :
    g.step r word = g.step s word ∨ ∃ r₁ s₁, g.step r word = .ok r₁ ∧ g.step s word = .ok s₁ ∧
      r₁.awaiting = false ∧ r₁.settle = .ok s₁ := by
  by_cases hword : r.trailing = true ∨ word ≠ ['-', '-']
  · exact .inl ((settlesFirst_step hg hawaiting hword).2 s hs)
  · obtain ⟨hr, rfl⟩ : r.trailing = false ∧ word = ['-', '-'] := by simpa using hword
    have hstrailing : s.trailing = false := by rw [trailing_of_settle hs, hr]
    refine .inr ⟨{ r with trailing := true }, { s with trailing := true }, by simp [step, hr],
      by simp [step, hstrailing], hawaiting, ?_⟩
    rw [settle_trailing, hs]
    rfl

end Settling

end Grammar

end SqlBuild
