/-!
# Sequence ranges

A script may be run once for each value of a range.
-/

namespace SqlBuild

/-- All integers from `first` to `last`. -/
structure SequenceRange where
  first : Int
  last : Int
deriving DecidableEq, Repr

/-- The range of two optional bounds: a missing last value repeats the first one, a missing first
value is one, and without both there is no range. -/
def SequenceRange.ofBounds? : Option Int → Option Int → Option SequenceRange
  | none, none => none
  | some first, some last => some ⟨first, last⟩
  | some first, none => some ⟨first, first⟩
  | none, some last => some ⟨1, last⟩

end SqlBuild
