import SqlBuild.Text.Basic

/-!
# The case of letters

Texts that are equal up to the case of ASCII letters are so character by character. A character
whose lower case is no lower-case letter is that character itself (`eq_of_toLower_eq`).
-/

namespace SqlBuild

theorem eq_of_toLower_eq {c d : Char} (h : c.toLower = d) (hd : d.isLower = false) : c = d := by
  have hrange : (decide (d.val ≥ 'a'.val) && decide (d.val ≤ 'z'.val)) = false := hd
  unfold Char.toLower at h
  split at h
  · rename_i hupper
    subst h
    simp only [ge_iff_le, UInt32.le_iff_toNat_le, UInt32.toNat_add,
      Bool.and_eq_false_iff, decide_eq_false_iff_not] at hupper hrange
    simp only [Char.reduceVal, UInt32.reduceToNat, UInt32.reduceSub] at hupper hrange
    omega
  · exact h

theorem toLower_of_isBlank {c : Char} (h : isBlank c = true) : c.toLower = c := by
  unfold Char.toLower
  refine dif_neg fun hupper => ?_
  simp only [isBlank, Char.toNat, Bool.or_eq_true, Bool.and_eq_true, decide_eq_true_eq,
    beq_iff_eq] at h
  simp only [ge_iff_le, UInt32.le_iff_toNat_le, Char.reduceVal, UInt32.reduceToNat] at hupper
  omega

namespace Text

variable {p q s t r : Text} {a c : Char}

theorem sameIgnoringCase_iff :
    sameIgnoringCase s t = true ↔ s.map Char.toLower = t.map Char.toLower := by
  simp [sameIgnoringCase, lower]

theorem head?_of_sameIgnoringCase (h : sameIgnoringCase s t = true) :
    s.head?.map Char.toLower = t.head?.map Char.toLower := by
  rw [← List.head?_map, ← List.head?_map, sameIgnoringCase_iff.1 h]

theorem length_of_sameIgnoringCase (h : sameIgnoringCase s t = true) : s.length = t.length := by
  simpa using congrArg List.length (sameIgnoringCase_iff.1 h)

theorem afterIgnoringCase?_cons_of_ne (h : c.toLower ≠ a.toLower) (p t : Text) :
    afterIgnoringCase? (a :: p) (c :: t) = none := by
  refine if_neg fun hsame => h ?_
  simpa using head?_of_sameIgnoringCase hsame

theorem afterIgnoringCase?_eq_some : afterIgnoringCase? p t = some r ↔
    ∃ q, t = q ++ r ∧ sameIgnoringCase q p = true := by
  unfold afterIgnoringCase?
  constructor
  · intro h
    obtain ⟨hsame, hr⟩ := Option.ite_none_right_eq_some.1 h
    exact ⟨t.take p.length, by rw [← Option.some.inj hr, List.take_append_drop], hsame⟩
  · rintro ⟨q, rfl, hq⟩
    rw [← length_of_sameIgnoringCase hq, List.take_left, List.drop_left, if_pos hq]

end Text

end SqlBuild
