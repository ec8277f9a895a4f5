import SqlBuild.Proofs.Compilation
import SqlBuild.Proofs.LetterCase
import SqlBuild.Proofs.Locality
import SqlBuild.Run.Script

/-!
# The pieces of a script

A file can be cut at the lines that end batches before its placeholders are resolved, and each piece
run as a script of its own, or it can be resolved as a whole and cut then. Both come to the same
batches (`Script.split_resolved`): a line that ends a batch has no placeholder, and what a
placeholder brings in stays between the line feeds of its line.
-/

namespace SqlBuild

namespace Batch

/-- The batches of lines. -/
def ofLines (ls : List Text) : List Text :=
  ((groups ls).map Text.unlines).filter (!Text.isAllBlank ·)

variable {a b ls : List Text} {line : Text}

theorem ofLines_terminator (h : isTerminator line = true) :
    ofLines (a ++ line :: b) = ofLines a ++ ofLines b := by
  rw [ofLines, groups, List.splitOnP_append_cons a b h, List.map_append, List.filter_append]
  rfl

theorem ofLines_unterminated (h : ∀ l ∈ ls, isTerminator l = false) :
    ofLines ls = if Text.isAllBlank (Text.unlines ls) then [] else [Text.unlines ls] := by
  rw [ofLines, groups, List.splitOnP_eq_singleton h, List.map_singleton, List.filter_singleton]
  cases Text.isAllBlank (Text.unlines ls) <;> rfl

/-- A line that ends a batch has only its two letters, and blanks around them. -/
theorem not_mem_of_isTerminator {c : Char} (hc : isBlank c = false)
    (hletter : c.toLower ∉ ("go" : Text)) (h : isTerminator line = true) : c ∉ line := by
  intro hmem
  have hlower : c.toLower ∈ (Text.trim line).map Char.toLower :=
    List.mem_map_of_mem (Text.mem_trim hc hmem)
  rw [isTerminator, Text.sameIgnoringCase_iff] at h
  rw [h] at hlower
  exact hletter hlower

end Batch

namespace Script

variable {ctx : Context} {a b ls : List Text} {line content : Text}

/-- A line of a file, and no command to leave. -/
structure Stays (line : Text) : Prop where
  noFeed : '\n' ∉ line
  noReturn : '\r' ∉ line
  noExit : Batch.isExit line = false

/-- Lines with their placeholders resolved. -/
def resolved (ctx : Context) (ls : List Text) : Text := Text.unlines (ls.map ctx.resolveWord)

theorem lines_unlines_of_stays (h : ∀ l ∈ ls, Stays l) : Text.lines (Text.unlines ls) = ls := by
  rw [Text.lines_unlines fun l hl => (h l hl).noFeed]
  exact (List.map_congr_left fun l hl => Text.dropReturn_eq_self (h l hl).noReturn).trans
    (List.map_id ls)

theorem body_unlines_of_stays (h : ∀ l ∈ ls, Stays l) : body (Text.unlines ls) = ls := by
  rw [body, lines_unlines_of_stays h]
  exact List.takeWhile_eq_self_iff.2 fun l hl => by simp [(h l hl).noExit]

theorem split_close (ls : List Text) :
    Batch.split (close (Text.unlines ls)) = Batch.split (Text.unlines ls) := by
  unfold close
  split
  · rfl
  · have hgo : Text.lines "go\n" = [("go" : Text)] := rfl
    calc Batch.split (Text.unlines ls ++ "go\n")
        = Batch.ofLines (Text.lines (Text.unlines ls) ++ [("go" : Text)]) := by
          rw [← hgo, ← Text.lines_unlines_append]
          rfl
      _ = Batch.ofLines (Text.lines (Text.unlines ls)) ++ Batch.ofLines [] :=
          Batch.ofLines_terminator (by decide)
      _ = Batch.split (Text.unlines ls) := List.append_nil _

theorem split_compose (ctx : Context) (content : Text) :
    Batch.split (compose ctx content none none) = Batch.split (resolved ctx (body content)) :=
  split_close _

theorem resolved_terminator (hline : Stays line) (h : Batch.isTerminator line = true) :
    Batch.split (resolved ctx (a ++ line :: b)) =
      Batch.split (resolved ctx a) ++ Batch.split (resolved ctx b) := by
  have hself : ctx.resolveWord line = line := Context.resolveWord_eq_self
    (Batch.not_mem_of_isTerminator (by decide) (by decide) h)
  have htext : resolved ctx (a ++ line :: b) =
      resolved ctx a ++ (Text.unlines [line] ++ resolved ctx b) := by
    simp [resolved, Text.unlines, hself]
  have hlines : Text.lines (resolved ctx a ++ (Text.unlines [line] ++ resolved ctx b)) =
      Text.lines (resolved ctx a) ++ line :: Text.lines (resolved ctx b) := by
    have hone : Text.lines (Text.unlines [line]) = [line] :=
      lines_unlines_of_stays (by simpa using hline)
    rw [resolved, Text.lines_unlines_append, Text.lines_unlines_append, hone]
    rfl
  rw [htext, Batch.split, hlines]
  exact Batch.ofLines_terminator h

theorem split_resolved_unterminated (hstays : ∀ l ∈ ls, Stays l)
    (h : ∀ l ∈ ls, Batch.isTerminator l = false) : Batch.split (resolved ctx ls) =
      (Batch.ofLines ls).flatMap fun text => Batch.split (compose ctx text none none) := by
  rw [Batch.ofLines_unterminated h]
  split
  · rename_i hblank
    have hself : ls.map ctx.resolveWord = ls := by
      refine (List.map_congr_left fun l hl => Context.resolveWord_eq_self fun hmem => ?_).trans
        (List.map_id ls)
      have hin : '&' ∈ Text.unlines ls :=
        List.mem_flatMap.2 ⟨l, hl, List.mem_append_left _ hmem⟩
      exact absurd (List.all_eq_true.1 hblank _ hin) (by decide)
    rw [resolved, hself, Batch.split, lines_unlines_of_stays hstays]
    exact (Batch.ofLines_unterminated h).trans (if_pos hblank)
  · rw [List.flatMap_singleton, split_compose, body_unlines_of_stays hstays]

/-- The batches of a script come from its pieces between the lines that end batches, whether these
are looked for before the placeholders are resolved or after. -/
theorem split_resolved : ∀ (ls a : List Text), (∀ l ∈ a ++ ls, Stays l) →
    (∀ l ∈ a, Batch.isTerminator l = false) → Batch.split (resolved ctx (a ++ ls)) =
      (Batch.ofLines (a ++ ls)).flatMap fun text => Batch.split (compose ctx text none none)
  | [], a, hstays, h => by
    rw [List.append_nil] at hstays ⊢
    exact split_resolved_unterminated hstays h
  | line :: ls, a, hstays, h => by
    by_cases hline : Batch.isTerminator line = true
    · obtain ⟨ha, hrest⟩ := List.forall_mem_append.1 hstays
      obtain ⟨hone, hls⟩ := List.forall_mem_cons.1 hrest
      rw [resolved_terminator hone hline, Batch.ofLines_terminator hline, List.flatMap_append,
        split_resolved_unterminated ha h]
      exact congrArg _ (split_resolved ls [] hls (by simp))
    · have hmore := split_resolved ls (a ++ [line]) (by simpa using hstays)
        (List.forall_mem_append.2 ⟨h, by simpa using hline⟩)
      simpa using hmore

end Script

end SqlBuild
