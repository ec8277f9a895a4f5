import Mathlib.Tactic.IntervalCases
import SqlBuild.Proofs.Dates
import SqlBuild.SqlServer.Cell

/-!
# Cells that hold dates and times

A time is written to the millisecond and the rest is cut off (`Calendar.timeText_inj`). The ticks of
the older types are longer than that and so are the units of a time up to scale 3, so their texts
tell all values apart; from scale 4 on, values of the same millisecond have the same text
(`SqlServer.Cell.texts_eq_iff`).
-/

namespace SqlBuild

namespace Calendar

theorem length_twoDigits {n : Nat} (h : n < 100) : (twoDigits n).length = 2 :=
  Text.length_leftpad_ofNat (by decide) h

theorem length_fractionText (nanos : Nat) : (fractionText 3 nanos).length = 3 := by
  refine Text.length_leftpad_ofNat (by decide) ?_
  simp only [nanosPerSecond, Nat.pow_eq]
  omega

section

variable {a b : Nat}

theorem clockText_inj (ha : a < nanosPerDay) (hb : b < nanosPerDay)
    (h : clockText a = clockText b) : a / nanosPerSecond = b / nanosPerSecond := by
  simp only [nanosPerDay, nanosPerSecond] at ha hb
  have hpart : ∀ {s t : Text} {m n : Nat}, m < 100 → n < 100 →
      s ++ ":" ++ twoDigits m = t ++ ":" ++ twoDigits n → s = t ∧ m = n := by
    intro s t m n hm hn heq
    obtain ⟨hfront, hlast⟩ := List.append_inj' heq
      (by rw [length_twoDigits hm, length_twoDigits hn])
    exact ⟨List.append_cancel_right hfront, Text.leftpad_ofNat_inj.1 hlast⟩
  simp only [clockText, nanosPerSecond] at h ⊢
  obtain ⟨h, hseconds⟩ := hpart (by omega) (by omega) h
  obtain ⟨h, hminutes⟩ := hpart (by omega) (by omega) h
  have hhours := Text.leftpad_ofNat_inj.1 h
  omega

theorem timeText_inj (ha : a < nanosPerDay) (hb : b < nanosPerDay) :
    timeText a = timeText b ↔ a / 1000000 = b / 1000000 := by
  have hplaces : Nat.pow 10 (9 - 3) = 1000000 := rfl
  constructor
  · intro h
    obtain ⟨hclock, hfraction⟩ := List.append_inj' h
      (by rw [length_fractionText, length_fractionText])
    have hseconds := clockText_inj ha hb (List.append_cancel_right hclock)
    have hmillis := Text.leftpad_ofNat_inj.1 hfraction
    simp only [hplaces, nanosPerSecond] at hseconds hmillis
    omega
  · intro h
    have hseconds : a / nanosPerSecond = b / nanosPerSecond := by
      simp only [nanosPerSecond]
      omega
    have hmillis : a % nanosPerSecond / 1000000 = b % nanosPerSecond / 1000000 := by
      simp only [nanosPerSecond]
      omega
    simp only [timeText, clockText, fractionText, hplaces, hseconds, hmillis]

theorem length_timeText (h : a < nanosPerDay) : (timeText a).length = 12 := by
  simp only [nanosPerDay, nanosPerSecond] at h
  simp only [timeText, clockText, List.length_append, length_fractionText, nanosPerSecond]
  rw [length_twoDigits (by omega), length_twoDigits (by omega), length_twoDigits (by omega)]
  rfl

end

theorem Moment.text_inj {day day' : Int} {a b : Nat} (ha : a < nanosPerDay) (hb : b < nanosPerDay) :
    Moment.text ⟨day, a⟩ = Moment.text ⟨day', b⟩ ↔ day = day' ∧ a / 1000000 = b / 1000000 := by
  rw [← Date.text_ofDay_inj, ← timeText_inj ha hb]
  constructor
  · intro h
    obtain ⟨hdate, htime⟩ := List.append_inj' h (by rw [length_timeText ha, length_timeText hb])
    exact ⟨List.append_cancel_right hdate, htime⟩
  · rintro ⟨hdate, htime⟩
    simp only [Moment.text, hdate, htime]

end Calendar

namespace SqlServer

open Calendar

/-- A type of dates or times, with its scale if it has one. -/
inductive ClockType
  | datetime
  | smalldatetime
  | date
  | time (scale : Nat)
  | datetime2 (scale : Nat)
deriving DecidableEq, Repr

namespace ClockType

/-- The values of a type. Times lie before midnight. -/
inductive Holds : ClockType → Cell → Prop
  | datetime {day : Int} {ticks : Nat} (h : ticks < 86400 * 300) :
    Holds .datetime (.datetime day ticks)
  | smalldatetime {day minutes : Nat} (h : minutes < 1440) :
    Holds .smalldatetime (.smalldatetime day minutes)
  | date {day : Nat} : Holds .date (.date day)
  | time {increments scale : Nat} (hscale : scale ≤ 7) (h : increments < 86400 * Nat.pow 10 scale) :
    Holds (.time scale) (.time increments scale)
  | datetime2 {day increments scale : Nat} (hscale : scale ≤ 7)
    (h : increments < 86400 * Nat.pow 10 scale) :
    Holds (.datetime2 scale) (.datetime2 day increments scale)

/-- The types whose values can lie closer together than a millisecond. -/
def IsFine : ClockType → Prop
  | time scale | datetime2 scale => 3 < scale
  | _ => False

end ClockType

namespace Cell

/-- A date or time with what lies below a millisecond cut off. -/
def cutOff : Cell → Cell
  | time increments scale => time (increments / Nat.pow 10 (scale - 3)) scale
  | datetime2 day increments scale => datetime2 day (increments / Nat.pow 10 (scale - 3)) scale
  | cell => cell

theorem ticksToNanos_lt {ticks : Nat} (h : ticks < 86400 * 300) :
    ticksToNanos ticks < nanosPerDay ∧ ticksToNanos ticks / 1000000 = ticks * 10 / 3 := by
  have hday : ticks * 1000000000 / 300 < 86400 * 1000000000 := by omega
  simp only [ticksToNanos, nanosPerDay, nanosPerSecond]
  rw [Nat.mod_eq_of_lt hday]
  omega

theorem scaledToNanos_lt {increments scale : Nat} (hscale : scale ≤ 7)
    (h : increments < 86400 * Nat.pow 10 scale) :
    scaledToNanos increments scale < nanosPerDay ∧ scaledToNanos increments scale / 1000000 =
      increments / Nat.pow 10 (scale - 3) * Nat.pow 10 (3 - scale) := by
  simp only [Nat.pow_eq] at h
  have hday : increments * 10 ^ (9 - scale) < 86400 * 1000000000 := by
    interval_cases scale <;> norm_num at h ⊢ <;> omega
  simp only [scaledToNanos, nanosPerDay, nanosPerSecond, Nat.pow_eq]
  rw [Nat.mod_eq_of_lt hday]
  refine ⟨hday, ?_⟩
  interval_cases scale <;> norm_num <;> omega

theorem scaledToNanos_inj {a b scale : Nat} (hscale : scale ≤ 7)
    (ha : a < 86400 * Nat.pow 10 scale) (hb : b < 86400 * Nat.pow 10 scale) :
    scaledToNanos a scale / 1000000 = scaledToNanos b scale / 1000000 ↔
      a / Nat.pow 10 (scale - 3) = b / Nat.pow 10 (scale - 3) := by
  rw [(scaledToNanos_lt hscale ha).2, (scaledToNanos_lt hscale hb).2]
  exact Nat.mul_left_inj (Nat.pow_pos (by decide)).ne'

theorem text_eq_iff {type : ClockType} {a b : Cell} (ha : type.Holds a) (hb : type.Holds b) :
    a.toText = b.toText ↔ a.cutOff = b.cutOff := by
  cases ha with
  | datetime h =>
    cases hb with
    | datetime h' =>
      refine (Moment.text_inj (ticksToNanos_lt h).1 (ticksToNanos_lt h').1).trans ?_
      rw [(ticksToNanos_lt h).2, (ticksToNanos_lt h').2]
      simp only [cutOff, datetime.injEq]
      omega
  | smalldatetime h =>
    cases hb with
    | smalldatetime h' =>
      refine (Moment.text_inj (Nat.mod_lt _ (by decide)) (Nat.mod_lt _ (by decide))).trans ?_
      simp only [cutOff, smalldatetime.injEq, nanosPerDay, nanosPerSecond]
      omega
  | date =>
    cases hb with
    | date =>
      refine Date.text_ofDay_inj.trans ?_
      simp only [cutOff, date.injEq, Int.natCast_inj]
  | time hscale h =>
    cases hb with
    | time _ h' =>
      refine (timeText_inj (scaledToNanos_lt hscale h).1 (scaledToNanos_lt hscale h').1).trans ?_
      simp only [scaledToNanos_inj hscale h h', cutOff, time.injEq, and_true]
  | datetime2 hscale h =>
    cases hb with
    | datetime2 _ h' =>
      refine (Moment.text_inj (scaledToNanos_lt hscale h).1 (scaledToNanos_lt hscale h').1).trans ?_
      simp only [scaledToNanos_inj hscale h h', cutOff, datetime2.injEq, Int.natCast_inj, and_true]

theorem cutOff_eq_self {type : ClockType} {cell : Cell} (h : type.Holds cell)
    (hcoarse : ¬ type.IsFine) : cell.cutOff = cell := by
  have hunit : ∀ n scale : Nat, ¬ 3 < scale → n / Nat.pow 10 (scale - 3) = n := by
    intro n scale hscale
    rw [Nat.sub_eq_zero_of_le (Nat.not_lt.1 hscale)]
    exact Nat.div_one n
  cases h with
  | time => rw [cutOff, hunit _ _ hcoarse]
  | datetime2 => rw [cutOff, hunit _ _ hcoarse]
  | _ => rfl

/-- Values of a type have the same text when they lie in the same millisecond. So each value of a
type whose units are no shorter than that has a text of its own. -/
theorem texts_eq_iff {type : ClockType} {a b : Cell} (ha : type.Holds a) (hb : type.Holds b) :
    (a.toText = b.toText ↔ a.cutOff = b.cutOff) ∧
      (¬ type.IsFine → (a.toText = b.toText ↔ a = b)) := by
  refine ⟨text_eq_iff ha hb, fun hcoarse => ?_⟩
  rw [text_eq_iff ha hb, cutOff_eq_self ha hcoarse, cutOff_eq_self hb hcoarse]

/-- Two ticks that follow each other, and two moments that only the units of scale 7 part. -/
theorem texts_eq_iff_close :
    ClockType.datetime.Holds (.datetime 45000 25919998) ∧
      ClockType.datetime.Holds (.datetime 45000 25919999) ∧
      (datetime 45000 25919998).toText ≠ (datetime 45000 25919999).toText ∧
    (ClockType.datetime2 7).Holds (.datetime2 730000 12345678 7) ∧
      (ClockType.datetime2 7).Holds (.datetime2 730000 12349999 7) ∧
      (datetime2 730000 12345678 7).toText = (datetime2 730000 12349999 7).toText := by
  have hlast : ClockType.datetime.Holds (.datetime 45000 25919998) := .datetime (by decide)
  have hend : ClockType.datetime.Holds (.datetime 45000 25919999) := .datetime (by decide)
  have hone : (ClockType.datetime2 7).Holds (.datetime2 730000 12345678 7) :=
    .datetime2 (by decide) (by decide)
  have htwo : (ClockType.datetime2 7).Holds (.datetime2 730000 12349999 7) :=
    .datetime2 (by decide) (by decide)
  refine ⟨hlast, hend, fun h => ?_, hone, htwo, (texts_eq_iff hone htwo).1.2 (by decide)⟩
  exact absurd (((texts_eq_iff hlast hend).2 id).1 h) (by decide)

/-- From scale 4 on, two values can have one text. -/
theorem text_of_two : (ClockType.time 7).Holds (.time 0 7) ∧ (ClockType.time 7).Holds (.time 1 7) ∧
    time 0 7 ≠ time 1 7 ∧ (time 0 7).toText = (time 1 7).toText ∧
    (ClockType.datetime2 4).Holds (.datetime2 730000 0 4) ∧
    (ClockType.datetime2 4).Holds (.datetime2 730000 9 4) ∧
    datetime2 730000 0 4 ≠ datetime2 730000 9 4 ∧
    (datetime2 730000 0 4).toText = (datetime2 730000 9 4).toText :=
  ⟨.time (by decide) (by decide), .time (by decide) (by decide), by decide, by decide +kernel,
    .datetime2 (by decide) (by decide), .datetime2 (by decide) (by decide), by decide,
    by decide +kernel⟩

end Cell

end SqlServer

end SqlBuild
