import Mathlib.Tactic.ByContra
import Mathlib.Tactic.TFAE
import SqlBuild.Options.Cache

/-!
# The age up to which an artifact is used

The setting counts minutes and the threshold seconds, and both have to be numbers of 64 bits. So
there are settings that are numbers of minutes and come to no threshold, those above a sixtieth of
that range (`maxAgeOf_eq`, `secondsOf?_eq_none_iff`). Up to there the threshold is what was asked
for, and not a minute further (`maxAgeOf_exact_tfae`).
-/

namespace SqlBuild

/-- The setting is a number of minutes of 64 bits. -/
def IsMinutes (setting : Text) (n : Nat) : Prop := Text.unsigned? 64 (Text.trim setting) = some n

instance (setting : Text) (n : Nat) : Decidable (IsMinutes setting n) :=
  inferInstanceAs (Decidable (_ = _))

theorem secondsOf?_eq_some_iff {minutes seconds : Nat} : secondsOf? minutes = some seconds ↔
    60 * minutes < UInt64.size ∧ 60 * minutes = seconds := by
  unfold secondsOf?
  split
  · simp [*]
  · exact iff_of_false nofun fun h => absurd h.1 ‹_›

theorem secondsOf?_eq_none_iff {minutes : Nat} :
    secondsOf? minutes = none ↔ UInt64.size ≤ 60 * minutes := by
  unfold secondsOf?
  split <;> simp_all

theorem maxAgeOf_eq {setting : Text} {n : Nat} (h : IsMinutes setting n) :
    maxAgeOf (some setting) = secondsOf? n := by
  rw [maxAgeOf, Option.bind_some, show Text.unsigned? 64 (Text.trim setting) = some n from h,
    Option.getD_some]

theorem Artifact.isFresh_of_age_le {artifact : Artifact} {maxAge : Nat} {now : Int}
    {modified : List (Option Int)} (h : now - artifact.written ≤ maxAge * second) :
    artifact.isFresh maxAge now modified = (newest? modified).all (· ≤ artifact.written) := by
  unfold isFresh
  rw [decide_eq_true h, Bool.true_and]
  cases newest? modified <;> rfl

/-- The first number of minutes whose seconds are no number of 64 bits. -/
def firstTooLong : Nat := 307445734561825861

theorem firstTooLong_le_iff (limit : Nat) :
    firstTooLong ≤ limit ↔ ¬ 60 * limit < UInt64.size := by
  unfold firstTooLong UInt64.size
  omega

theorem isMinutes_firstTooLong : IsMinutes "307445734561825861" firstTooLong := by decide +kernel

theorem maxAgeOf_firstTooLong : maxAgeOf (some ("307445734561825861" : Text)) = none := by
  rw [maxAgeOf_eq isMinutes_firstTooLong, secondsOf?_eq_none_iff]
  decide

/-- Up to the same limit, and no further, settings give their minutes in seconds, a larger setting
gives a threshold that is no shorter, and no artifact is refused for an age that the setting
allows. -/
theorem maxAgeOf_exact_tfae (limit : Nat) : List.TFAE [
    60 * limit < UInt64.size,
    ∀ setting n, IsMinutes setting n → n ≤ limit → maxAgeOf (some setting) = some (60 * n),
    ∀ setting setting' m n, IsMinutes setting m → IsMinutes setting' n → m ≤ n → n ≤ limit →
      ∃ shorter longer, maxAgeOf (some setting) = some shorter ∧
        maxAgeOf (some setting') = some longer ∧ shorter ≤ longer,
    ∀ setting n, IsMinutes setting n → n ≤ limit → ∃ maxAge, maxAgeOf (some setting) = some maxAge ∧
      ∀ (artifact : Artifact) (now : Int) (modified : List (Option Int)),
        now - artifact.written ≤ (60 * n : Nat) * second →
        artifact.isFresh maxAge now modified =
          (newest? modified).all (· ≤ artifact.written)] := by
  tfae_have 1 → 2 := by
    intro hlimit setting n hn hle
    rw [maxAgeOf_eq hn, secondsOf?_eq_some_iff]
    exact ⟨by omega, rfl⟩
  tfae_have 2 → 3 := by
    intro hexact setting setting' m n hm hn hmn hle
    exact ⟨60 * m, 60 * n, hexact setting m hm (Nat.le_trans hmn hle), hexact setting' n hn hle,
      Nat.mul_le_mul_left 60 hmn⟩
  tfae_have 2 → 4 := by
    intro hexact setting n hn hle
    exact ⟨60 * n, hexact setting n hn hle,
      fun artifact now modified hage => Artifact.isFresh_of_age_le hage⟩
  -- Of the first setting that is too long there is no threshold at all.
  tfae_have 3 → 1 := by
    intro hmono
    by_contra hlimit
    obtain ⟨_, _, hshorter, -⟩ := hmono _ _ _ _ isMinutes_firstTooLong isMinutes_firstTooLong
      (Nat.le_refl _) ((firstTooLong_le_iff limit).2 hlimit)
    rw [maxAgeOf_firstTooLong] at hshorter
    cases hshorter
  tfae_have 4 → 1 := by
    intro hfresh
    by_contra hlimit
    obtain ⟨_, hmaxAge, -⟩ :=
      hfresh _ _ isMinutes_firstTooLong ((firstTooLong_le_iff limit).2 hlimit)
    rw [maxAgeOf_firstTooLong] at hmaxAge
    cases hmaxAge
  tfae_finish

/-- A minute decides whether there is a threshold of some hundred billion years or none. -/
theorem maxAgeOf_overflows : IsMinutes "307445734561825861" 307445734561825861 ∧
    maxAgeOf (some ("307445734561825861" : Text)) = none ∧
    maxAgeOf (some ("307445734561825860" : Text)) = some (60 * 307445734561825860) := by
  decide +kernel

end SqlBuild
