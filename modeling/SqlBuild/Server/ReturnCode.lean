import SqlBuild.Text.Basic

/-!
# Calls for a return code

A procedure is called by its name and arguments; a caller may have written `exec` in front of it.
-/

namespace SqlBuild

namespace ReturnCode

theorem length_lt_of_after? {word t rest : Text} (hw : word ≠ [])
    (h : Text.after? word t = some rest) : rest.length < t.length := by
  rw [Text.after?_eq_some] at h
  subst h
  cases word with
  | nil => exact absurd rfl hw
  | cons c word => simp only [List.cons_append, List.length_cons, List.length_append]; omega

/-- Without every leading occurrence of `word`. -/
def dropWord (word t : Text) : Text :=
  if _hw : word = [] then t
  else
    match _h : Text.after? word t with
    | none => t
    | some rest => dropWord word rest
termination_by t.length
decreasing_by exact length_lt_of_after? _hw _h

/-- The call itself, without blanks and the word `exec`. -/
def procedureOf (call : Text) : Text :=
  dropWord "EXEC " (dropWord "exec " (Text.trim call))

/-- The complaint about an answer without a return code. -/
def noStatus (call : Text) : Text := "No return status from '" ++ call ++ "'"

end ReturnCode

end SqlBuild
