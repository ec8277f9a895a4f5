import Mathlib.Tactic.SplitIfs
import SqlBuild.Calendar.Date
import SqlBuild.Proofs.Digits

/-!
# Days and their dates

The year of a day is the one that begins on it or before it and does not end before it
(`Calendar.firstDay_yearOf`); the day has a place in one of its months (`Calendar.locate_eq`). So
the number of a day is found from its date again (`Calendar.Date.toDay_ofDay`), and different days
have different texts (`Calendar.Date.text_ofDay_inj`).
-/

namespace SqlBuild

namespace Calendar

/-- Year `n + 1` begins within a day or two of where years of average length put it. -/
theorem firstDay_bounds (year : Int) :
    146097 * (year - 1) - 700 < 400 * firstDay year ∧
      400 * firstDay year ≤ 146097 * (year - 1) + 400 := by
  unfold firstDay
  simp only []
  omega

theorem firstDay_succ (year : Int) :
    firstDay (year + 1) = firstDay year + if isLeap year then 366 else 365 := by
  have hleap : isLeap year = true ↔ year % 4 = 0 ∧ (year % 100 ≠ 0 ∨ year % 400 = 0) := by
    simp [isLeap]
  simp only [firstDay, hleap]
  split_ifs <;> omega

theorem firstDay_yearOf (day : Int) :
    firstDay (yearOf day) ≤ day ∧ day < firstDay (yearOf day + 1) := by
  have hnear : ∀ past : Int, past = 400 * day / 146097 →
      firstDay past ≤ day ∧ day < firstDay (past + 1 + 1 + 1) := by
    rintro past rfl
    have hbefore := firstDay_bounds (400 * day / 146097)
    have hbehind := firstDay_bounds (400 * day / 146097 + 1 + 1 + 1)
    omega
  obtain ⟨hbefore, hbehind⟩ := hnear _ rfl
  simp only [yearOf]
  split_ifs with h₁ h₂
  · rw [Int.add_sub_cancel]
    exact ⟨hbefore, h₁⟩
  · exact ⟨h₂, hbehind⟩
  · exact ⟨Int.not_lt.1 h₁, Int.not_le.1 h₂⟩

/-! ### Months -/

theorem locate_eq : ∀ {lengths : List Nat} {i : Nat}, i < lengths.foldr Nat.add 0 →
    ∃ n j, locate lengths i = (n + 1, j) ∧ (∃ h : n < lengths.length, j < lengths[n]) ∧
      (lengths.take n).foldr Nat.add 0 + j = i
  | [], i, h => by simp at h
  | length :: rest, i, h => by
    rw [locate]
    split_ifs with hi
    · exact ⟨0, i, rfl, ⟨by simp, hi⟩, by simp⟩
    · obtain ⟨n, j, hrest, ⟨hn, hj⟩, hsum⟩ := @locate_eq rest (i - length) (by
        simp only [List.foldr_cons, Nat.add_eq] at h
        omega)
      refine ⟨n + 1, j, by rw [hrest], ⟨by simpa using hn, by simpa using hj⟩, ?_⟩
      simp only [List.take_succ_cons, List.foldr_cons, Nat.add_eq] at hsum ⊢
      omega

theorem sum_monthLengths (year : Int) :
    (monthLengths year).foldr Nat.add 0 = if isLeap year then 366 else 365 := by
  cases h : isLeap year <;> simp [monthLengths, daysInMonth, h, List.range, List.range.loop]

theorem daysInMonth_le (year : Int) (month : Nat) : daysInMonth year month ≤ 31 := by
  unfold daysInMonth
  split_ifs <;> simp

namespace Date

theorem exists_ofDay (day : Int) : ∃ n j, ofDay day = ⟨yearOf day, n + 1, j + 1⟩ ∧ n < 12 ∧ j < 31 ∧
    firstDay (yearOf day) + ((monthLengths (yearOf day)).take n).foldr Nat.add 0 + j = day := by
  obtain ⟨hfirst, hlast⟩ := firstDay_yearOf day
  rw [firstDay_succ] at hlast
  have hin : (day - firstDay (yearOf day)).toNat <
      (monthLengths (yearOf day)).foldr Nat.add 0 := by
    rw [sum_monthLengths]
    split_ifs at hlast ⊢ <;> omega
  obtain ⟨n, j, hlocate, ⟨hn, hj⟩, hsum⟩ := locate_eq hin
  have hmonth : n < 12 := by simpa [monthLengths] using hn
  have hday : j < 31 := by
    simp only [monthLengths, List.getElem_map] at hj
    exact Nat.lt_of_lt_of_le hj (daysInMonth_le _ _)
  exact ⟨n, j, by simp only [ofDay, hlocate], hmonth, hday, by omega⟩

theorem toDay_ofDay (day : Int) : (ofDay day).toDay = day := by
  obtain ⟨n, j, hdate, -, -, hday⟩ := exists_ofDay day
  simp only [hdate, toDay, Nat.add_sub_cancel]
  exact hday

/-! ### Texts -/

/-- The year that a text shows. -/
def readYear : Text → Int
  | '-' :: t => -(Nat.ofDigitChars 10 t 0 : Int)
  | '+' :: t => Nat.ofDigitChars 10 t 0
  | t => Nat.ofDigitChars 10 t 0

theorem readYear_yearText (year : Int) : readYear (yearText year) = year := by
  have hdigits := Text.ofDigitChars_leftpad 4 year.natAbs
  unfold yearText
  simp only []
  split_ifs
  · simp only [readYear, hdigits]
    omega
  · simp only [readYear, hdigits]
    omega
  · have hsign : ∀ c t, (Text.ofNat year.natAbs).leftpad 4 '0' = c :: t → c.isDigit = true :=
      fun c t h => Text.isDigit_of_mem_leftpad (h ▸ List.mem_cons_self)
    unfold readYear
    split
    · exact absurd (hsign _ _ ‹_›) (by decide)
    · exact absurd (hsign _ _ ‹_›) (by decide)
    · omega

theorem yearText_inj {a b : Int} (h : yearText a = yearText b) : a = b := by
  rw [← readYear_yearText a, h, readYear_yearText]

theorem text_inj {a b : Date} (ha : a.month < 100 ∧ a.day < 100) (hb : b.month < 100 ∧ b.day < 100)
    (h : a.text = b.text) : a = b := by
  have hlength : ∀ n, n < 100 → ((Text.ofNat n).leftpad 2 '0').length = 2 :=
    fun n hn => Text.length_leftpad_ofNat (by decide) hn
  obtain ⟨hfront, hday⟩ := List.append_inj' h (by rw [hlength _ ha.2, hlength _ hb.2])
  obtain ⟨hfront, hmonth⟩ := List.append_inj' (List.append_cancel_right hfront)
    (by rw [hlength _ ha.1, hlength _ hb.1])
  rw [Text.leftpad_ofNat_inj] at hday hmonth
  have hyear := yearText_inj (List.append_cancel_right hfront)
  cases a
  cases b
  simp_all

/-- Different days have different texts. -/
theorem text_ofDay_inj {a b : Int} : (ofDay a).text = (ofDay b).text ↔ a = b := by
  have hshort : ∀ day, (ofDay day).month < 100 ∧ (ofDay day).day < 100 := by
    intro day
    obtain ⟨n, j, hdate, hn, hj, -⟩ := exists_ofDay day
    rw [hdate]
    exact ⟨by simp only []; omega, by simp only []; omega⟩
  refine ⟨fun h => ?_, fun h => h ▸ rfl⟩
  rw [← toDay_ofDay a, text_inj (hshort a) (hshort b) h, toDay_ofDay]

end Date

end Calendar

end SqlBuild
