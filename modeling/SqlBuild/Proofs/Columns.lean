import SqlBuild.Proofs.Lines

/-!
# Columns of a line

A line in columns that lost the blanks at its end has in each column what it had there, up to the
blanks around it (`Text.trim_stretch_trimEnd`). Texts that are joined by blanks stand each at the
place that the lengths of those before it give (`Text.stretch_join`).
-/

namespace SqlBuild

namespace Text

/-- The characters at a place of a line: so many from there on, or as many as there are. -/
def stretch (t : Text) (place : Nat × Nat) : Text := (t.drop place.1).take place.2

/-- The places of texts of these lengths, one blank between neighbours, the first at `start`. -/
def places : Nat → List Nat → List (Nat × Nat)
  | _, [] => []
  | start, width :: widths => (start, width) :: places (start + width + 1) widths

variable {n : Nat} {t : Text}

theorem trim_drop_trimEnd (t : Text) (start : Nat) :
    trim ((trimEnd t).drop start) = trim (t.drop start) := by
  obtain ⟨blanks, hsplit, hblank⟩ := exists_trimEnd_append t
  conv_rhs => rw [hsplit, List.drop_append]
  exact (trim_append (fun c hc => hblank c (List.mem_of_mem_drop hc)) _).symm

theorem trim_stretch_trimEnd (t : Text) (place : Nat × Nat) :
    trim ((trimEnd t).stretch place) = trim (t.stretch place) := by
  obtain ⟨blanks, hsplit, hblank⟩ := exists_trimEnd_append t
  unfold stretch
  conv_rhs => rw [hsplit, List.drop_append, List.take_append]
  refine (trim_append (fun c hc => hblank c ?_) _).symm
  exact List.mem_of_mem_drop (List.mem_of_mem_take hc)

theorem blank_of_mem_replicate {c : Char} (h : c ∈ List.replicate n ' ') : isBlank c = true := by
  rw [List.eq_of_mem_replicate h]
  rfl

theorem trim_padEnd (n : Nat) (t : Text) : trim (padEnd n t) = trim t :=
  trim_append (fun _ => blank_of_mem_replicate) t

theorem trim_padStart (n : Nat) (t : Text) : trim (padStart n t) = trim t :=
  trim_blanks_append (fun _ => blank_of_mem_replicate) t

theorem length_padEnd (h : t.length ≤ n) : (padEnd n t).length = n := by
  rw [padEnd, List.length_rightpad, max_eq_left h]

theorem length_padStart (h : t.length ≤ n) : (padStart n t).length = n := by
  rw [padStart, List.length_leftpad, max_eq_left h]

theorem length_places : ∀ (start : Nat) (widths : List Nat),
    (places start widths).length = widths.length
  | _, [] => rfl
  | start, width :: widths => by simp [places, length_places (start + width + 1) widths]

theorem snd_places : ∀ (start : Nat) (widths : List Nat),
    (places start widths).map Prod.snd = widths
  | _, [] => rfl
  | start, width :: widths => by simp [places, snd_places (start + width + 1) widths]

/-- Each of the joined texts stands at its place. -/
theorem stretch_join : ∀ (before : Text) (ts : List Text),
    (places before.length (ts.map List.length)).map (before ++ join " " ts).stretch = ts
  | _, [] => rfl
  | before, [t] => by simp [places, stretch, join]
  | before, t :: u :: ts => by
    have ih := stretch_join (before ++ t ++ [' ']) (u :: ts)
    have hline : before ++ join " " (t :: u :: ts) =
        before ++ t ++ [' '] ++ join " " (u :: ts) := by
      simp [join, List.intercalate_cons_cons]
    rw [hline, List.map_cons, places, List.map_cons]
    refine congrArg₂ List.cons ?_ ?_
    · simp [stretch, List.append_assoc]
    · simpa [Nat.add_assoc] using ih

end Text

end SqlBuild
