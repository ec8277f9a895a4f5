import Mathlib.Algebra.Order.Field.Rat
import Mathlib.Tactic.FieldSimp
import SqlBuild.Proofs.Digits
import SqlBuild.SqlServer.Cell

/-!
# Decimal numbers and their texts

A decimal cell is written as quotient and remainder with a point between them. The text stands for
the number of the cell as long as the remainder has no sign, that is for numbers from zero on and
for whole ones; of any other number below zero the text is no decimal number
(`SqlServer.Cell.decimal?_numeric`).
-/

namespace SqlBuild

namespace Text

/-- The number that digits stand for, with at most one point among them and none at an end. -/
def unsignedDecimal? (t : Text) : Option ℚ :=
  match t.splitOn '.' with
  | [whole] => (digits? whole).map fun n => (n : ℚ)
  | [whole, fraction] => do
    let n ← digits? whole
    let f ← digits? fraction
    return n + f / 10 ^ fraction.length
  | _ => none

/-- The number that a text stands for in decimal notation; a sign may stand before it. -/
def decimal? : Text → Option ℚ
  | '-' :: t => (unsignedDecimal? t).map fun x => -x
  | '+' :: t => unsignedDecimal? t
  | t => unsignedDecimal? t

theorem isDigit_of_digits? {t : Text} {n : Nat} (h : digits? t = some n) :
    ∀ c ∈ t, c.isDigit = true := by
  simp only [digits?, Option.ite_none_right_eq_some, List.all_eq_true] at h
  exact h.1.2

theorem point_not_mem {t : Text} (h : ∀ c ∈ t, c.isDigit = true) : '.' ∉ t :=
  fun hpoint => absurd (h '.' hpoint) (by decide)

theorem splitOn_point {whole fraction : Text} (hwhole : '.' ∉ whole) (hfraction : '.' ∉ fraction) :
    (whole ++ '.' :: fraction).splitOn '.' = [whole, fraction] := by
  rw [List.splitOn_append_cons_self_of_not_mem hwhole, List.splitOn_eq_singleton hfraction]

theorem unsignedDecimal?_point {whole fraction : Text} {n f : Nat}
    (hwhole : digits? whole = some n) (hfraction : digits? fraction = some f) :
    unsignedDecimal? (whole ++ '.' :: fraction) =
      some ((n : ℚ) + (f : ℚ) / 10 ^ fraction.length) := by
  have hsplit := splitOn_point (point_not_mem (isDigit_of_digits? hwhole))
    (point_not_mem (isDigit_of_digits? hfraction))
  simp only [unsignedDecimal?, hsplit, hwhole, hfraction, Option.bind_eq_bind, Option.bind_some,
    Option.pure_def]

/-- A sign behind the point is no digit. -/
theorem unsignedDecimal?_sign {whole fraction : Text} (hwhole : ∀ c ∈ whole, c.isDigit = true)
    (hfraction : ∀ c ∈ fraction, c.isDigit = true) :
    unsignedDecimal? (whole ++ '.' :: '-' :: fraction) = none := by
  have hpoint : '.' ∉ '-' :: fraction := by simp [point_not_mem hfraction]
  have hsplit := splitOn_point (point_not_mem hwhole) hpoint
  have hsign : digits? ('-' :: fraction) = none := if_neg (by simp)
  simp [unsignedDecimal?, hsplit, hsign]

theorem decimal?_ofInt (i : Int) (rest : Text) :
    decimal? (ofInt i ++ rest) =
      (unsignedDecimal? (ofNat i.natAbs ++ rest)).map fun x => if i < 0 then -x else x := by
  cases i with
  | negSucc n => simp [ofInt, decimal?, Int.negSucc_lt_zero]
  | ofNat n =>
    obtain ⟨c, t, hc⟩ := List.exists_cons_of_ne_nil (ofNat_ne_nil n)
    have hdigit : c.isDigit = true := isDigit_of_mem_ofNat (hc ▸ List.mem_cons_self)
    have hunsigned : decimal? (ofNat n ++ rest) = unsignedDecimal? (ofNat n ++ rest) := by
      rw [hc, List.cons_append]
      unfold decimal?
      split
      · simp_all
      · simp_all
      · rfl
    have hsign : ¬ (n : Int) < 0 := by omega
    simp [ofInt, hunsigned, hsign]

end Text

namespace SqlServer

namespace Cell

theorem tmod_neg_iff {a b : Int} : a.tmod b < 0 ↔ ¬(0 ≤ a ∨ b ∣ a) := by
  rw [← Int.sign_eq_neg_one_iff_neg, Int.sign_tmod]
  split_ifs with hdvd
  · simp [hdvd]
  · rw [Int.sign_eq_neg_one_iff_neg]
    simp [hdvd]

/-- A remainder below zero has its sign behind the point. -/
theorem decimal?_of_neg {q r : Int} {width : Nat} (h : r < 0) :
    Text.decimal? (Text.ofInt q ++ '.' :: zeroPadded width r) = none := by
  rw [zeroPadded, if_pos h, Text.decimal?_ofInt, Text.unsignedDecimal?_sign
    (fun _ => Text.isDigit_of_mem_ofNat) (fun _ => Text.isDigit_of_mem_leftpad), Option.map_none]

theorem decimal?_of_nonneg {q r : Int} {width : Nat} (h : 0 ≤ r) (hr : r < 10 ^ width)
    (hq : q < 0 → r = 0) :
    Text.decimal? (Text.ofInt q ++ '.' :: zeroPadded width r) =
      some ((q : ℚ) + (r : ℚ) / 10 ^ width) := by
  lift r to ℕ using h
  have hlength : (r : ℚ) / 10 ^ ((Text.ofNat r).leftpad width '0').length = r / 10 ^ width := by
    rcases Nat.eq_zero_or_pos width with rfl | hwidth
    · obtain rfl : r = 0 := by omega
      simp
    · rw [Text.length_leftpad_ofNat hwidth (by exact_mod_cast hr)]
  rw [zeroPadded, if_neg (by omega), Text.decimal?_ofInt, Int.natAbs_natCast,
    Text.unsignedDecimal?_point (Text.digits?_ofNat _) (Text.digits?_leftpad _ _), hlength,
    Option.map_some]
  rcases lt_or_ge q 0 with hneg | hpos
  · obtain rfl : r = 0 := by exact_mod_cast hq hneg
    simp [hneg, abs_of_neg hneg]
  · simp [not_lt.2 hpos, abs_of_nonneg hpos]

/-- The text of a decimal stands for its value unless that is below zero and not whole. -/
theorem decimal?_numeric (value : Int) (scale : Nat) :
    Text.decimal? (toText (.numeric value scale)) =
      if 0 ≤ value ∨ (10 ^ scale : Int) ∣ value then some ((value : ℚ) / 10 ^ scale) else none := by
  have hunit : ((Nat.pow 10 scale : Nat) : Int) = 10 ^ scale := by
    rw [Nat.pow_eq]
    push_cast
    rfl
  have hpos : (0 : Int) < 10 ^ scale := Int.pow_pos (by decide)
  have htext : toText (.numeric value scale) = Text.ofInt (value.tdiv (10 ^ scale)) ++
      '.' :: zeroPadded scale (value.tmod (10 ^ scale)) := by
    rw [← hunit]
    exact List.append_assoc _ ['.'] _
  rw [htext]
  split_ifs with h
  · have hr : 0 ≤ value.tmod (10 ^ scale) := by
      by_contra hneg
      exact tmod_neg_iff.1 (not_le.1 hneg) h
    have hq : value.tdiv (10 ^ scale) < 0 → value.tmod (10 ^ scale) = 0 := by
      rintro hq
      rcases h with hvalue | hdvd
      · exact absurd (Int.tdiv_nonneg hvalue hpos.le) (not_le.2 hq)
      · exact Int.tmod_eq_zero_of_dvd hdvd
    rw [decimal?_of_nonneg hr (Int.tmod_lt_of_pos value hpos) hq]
    have hvalue : (value : ℚ) = 10 ^ scale * (value.tdiv (10 ^ scale) : ℚ) +
        (value.tmod (10 ^ scale) : ℚ) := by
      exact_mod_cast (Int.mul_tdiv_add_tmod value (10 ^ scale)).symm
    rw [hvalue]
    field_simp
  · exact decimal?_of_neg (tmod_neg_iff.2 h)

/-- The number -150 / 100 has no text that stands for it. -/
theorem decimal?_minus_one_half : toText (.numeric (-150) 2) = "-1.-50" ∧
    Text.decimal? (toText (.numeric (-150) 2)) ≠ some (-150 / 10 ^ 2) := by
  have htext : toText (.numeric (-150) 2) = "-1.-50" := by decide +kernel
  have hread : Text.decimal? "-1.-50" = none := by decide +kernel
  refine ⟨htext, fun h => ?_⟩
  rw [htext, hread] at h
  cases h

end Cell

end SqlServer

end SqlBuild
