import SqlBuild.Bulk.Row

/-!
# Rows to be loaded

Rows are drawn until there are no more. A line that cannot be read looks like the end, but whoever
asks again gets the rows behind it.
-/

namespace SqlBuild

structure RowStream where
  rows : List Row
  /-- The rows behind each line that cannot be read, up to the next such line. -/
  behind : List (List Row) := []
deriving DecidableEq, Repr

instance : Coe (List Row) RowStream := ⟨fun rows => { rows }⟩

namespace RowStream

/-- How much is left: rows and ends. -/
def size (stream : RowStream) : Nat :=
  stream.rows.length + stream.behind.foldr (fun rows n => rows.length + 1 + n) 0

/-- What is left after an end. -/
def next : RowStream → RowStream
  | ⟨_, []⟩ => ⟨[], []⟩
  | ⟨_, rows :: behind⟩ => ⟨rows, behind⟩

/-- Draws at most `count` rows: those drawn, and what is left. Drawing fewer means that an end was
met. -/
def draw (count : Nat) (stream : RowStream) : List Row × RowStream :=
  if stream.rows.length < count then (stream.rows, stream.next)
  else (stream.rows.take count, { stream with rows := stream.rows.drop count })

theorem size_next_lt {stream : RowStream} (h : stream.rows ≠ []) :
    stream.next.size < stream.size := by
  obtain ⟨rows, behind⟩ := stream
  have := List.length_pos_iff.2 h
  cases behind with
  | nil => simpa [next, size] using this
  | cons rows' behind =>
    simp only [next, size, List.foldr_cons] at this ⊢
    omega

/-- Rows that are drawn are no longer left. -/
theorem size_draw_lt {count : Nat} {stream : RowStream} (h : (stream.draw count).1 ≠ []) :
    (stream.draw count).2.size < stream.size := by
  unfold draw at h ⊢
  split
  · exact size_next_lt (by simpa [*] using h)
  · rename_i hlong
    simp only [hlong, if_false, ne_eq, List.take_eq_nil_iff, not_or] at h
    have := List.length_pos_iff.2 h.2
    simp only [size, List.length_drop]
    omega

end RowStream

end SqlBuild
