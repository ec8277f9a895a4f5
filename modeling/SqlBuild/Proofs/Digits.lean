import SqlBuild.Text.Digit

/-!
# Digits and what they stand for

A number is read back from its digits (`Text.digits?_ofNat`), and zeros in front of them change
nothing (`Text.digits?_leftpad`). Digits that are filled up to a width have that width when the
number is small enough for it.
-/

namespace SqlBuild

namespace Text

theorem isDigit_of_mem_ofNat {n : Nat} {c : Char} (h : c ∈ ofNat n) : c.isDigit = true :=
  Nat.isDigit_of_mem_toDigits (by decide) (by decide) h

theorem ofNat_ne_nil (n : Nat) : ofNat n ≠ [] := Nat.toDigits_ne_nil

theorem digits?_of_isDigit {t : Text} (hne : t ≠ []) (h : ∀ c ∈ t, c.isDigit = true) :
    digits? t = some (Nat.ofDigitChars 10 t 0) := by
  rw [digits?, if_pos ⟨hne, List.all_eq_true.2 h⟩, Nat.ofDigitChars_eq_foldl]

theorem ofDigitChars_ofNat (n : Nat) : Nat.ofDigitChars 10 (ofNat n) 0 = n :=
  Nat.ofDigitChars_toDigits (by decide) (by decide)

theorem digits?_ofNat (n : Nat) : digits? (ofNat n) = some n := by
  rw [digits?_of_isDigit (ofNat_ne_nil n) fun _ => isDigit_of_mem_ofNat, ofDigitChars_ofNat]

section

variable {width n : Nat}

theorem isDigit_of_mem_leftpad {c : Char} (h : c ∈ (ofNat n).leftpad width '0') :
    c.isDigit = true := by
  rcases List.mem_append.1 h with h | h
  · rw [List.eq_of_mem_replicate h]
    rfl
  · exact isDigit_of_mem_ofNat h

theorem ofDigitChars_leftpad (width n : Nat) :
    Nat.ofDigitChars 10 ((ofNat n).leftpad width '0') 0 = n := by
  rw [List.leftpad, Nat.ofDigitChars_append, Nat.ofDigitChars_replicate_zero, Nat.mul_zero,
    ofDigitChars_ofNat]

theorem digits?_leftpad (width n : Nat) : digits? ((ofNat n).leftpad width '0') = some n := by
  have hne : (ofNat n).leftpad width '0' ≠ [] := by simp [List.leftpad, ofNat_ne_nil]
  rw [digits?_of_isDigit hne fun _ => isDigit_of_mem_leftpad, ofDigitChars_leftpad]

theorem leftpad_ofNat_inj {m : Nat} :
    (ofNat m).leftpad width '0' = (ofNat n).leftpad width '0' ↔ m = n := by
  refine ⟨fun h => ?_, fun h => h ▸ rfl⟩
  rw [← ofDigitChars_leftpad width m, h, ofDigitChars_leftpad]

theorem length_leftpad_ofNat (hwidth : 0 < width) (h : n < Nat.pow 10 width) :
    ((ofNat n).leftpad width '0').length = width := by
  have hlength : (ofNat n).length ≤ width := (Nat.length_toDigits_le_iff (by decide) hwidth).2 h
  rw [List.length_leftpad]
  omega

end

end Text

end SqlBuild
