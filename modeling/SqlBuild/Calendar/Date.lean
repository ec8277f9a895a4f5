import SqlBuild.Calendar.Month
import SqlBuild.Text.Digit

/-!
# Dates by the number of their day

Day 0 is the first day of year 1. A day lies in exactly one year, and in exactly one month of it, so
the date of every day is found by passing over the whole years and then the whole months before it.
-/

namespace SqlBuild

namespace Calendar

structure Date where
  year : Int
  month : Nat
  day : Nat
deriving DecidableEq, Repr

/-- The number of the first day of a year. -/
def firstDay (year : Int) : Int :=
  let past := year - 1
  365 * past + past / 4 - past / 100 + past / 400

/-- The year of a day. Years of average length lead to it or to one of its neighbours. -/
def yearOf (day : Int) : Int :=
  let near := 400 * day / 146097 + 1
  if day < firstDay near then near - 1
  else if firstDay (near + 1) ≤ day then near + 1
  else near

/-- Which of the stretches with these lengths holds position `i`, counted from 1, and the position
inside it, counted from 0. -/
def locate : List Nat → Nat → Nat × Nat
  | [], i => (0, i)
  | length :: rest, i =>
    if i < length then (1, i)
    else
      let (n, j) := locate rest (i - length)
      (n + 1, j)

/-- The lengths of the months of a year. -/
def monthLengths (year : Int) : List Nat := (List.range 12).map fun i => daysInMonth year (i + 1)

namespace Date

/-- The date of a day. -/
def ofDay (day : Int) : Date :=
  let year := yearOf day
  let (month, i) := locate (monthLengths year) (day - firstDay year).toNat
  ⟨year, month, i + 1⟩

/-- The number of the day of a date. -/
def toDay (date : Date) : Int :=
  let before := ((monthLengths date.year).take (date.month - 1)).foldr Nat.add 0
  firstDay date.year + before + (date.day - 1 : Nat)

/-- A year of four digits; one that needs more, or lies before year 0, has a sign. -/
def yearText (year : Int) : Text :=
  let digits := (Text.ofNat year.natAbs).leftpad 4 '0'
  if year < 0 then '-' :: digits else if 9999 < year then '+' :: digits else digits

/-- Year, month and day with dashes between them. -/
def text (date : Date) : Text :=
  yearText date.year ++ "-" ++ (Text.ofNat date.month).leftpad 2 '0' ++ "-" ++
    (Text.ofNat date.day).leftpad 2 '0'

end Date

end Calendar

end SqlBuild
