import SqlBuild.Calendar.Date

/-!
# Times of day and moments

A time of day is a number of nanoseconds since midnight. A moment is a day with a time; shifting it
by an offset may lead to another day. Fractions of a second are cut off, never rounded.
-/

namespace SqlBuild

namespace Calendar

def nanosPerSecond : Nat := 1000000000

def nanosPerDay : Nat := 86400 * nanosPerSecond

/-- Two digits. -/
def twoDigits (n : Nat) : Text := (Text.ofNat n).leftpad 2 '0'

/-- The first `places` digits of the fraction of a second. -/
def fractionText (places nanos : Nat) : Text :=
  (Text.ofNat (nanos % nanosPerSecond / Nat.pow 10 (9 - places))).leftpad places '0'

/-- Hours, minutes and seconds with colons between them. -/
def clockText (nanos : Nat) : Text :=
  let seconds := nanos / nanosPerSecond
  twoDigits (seconds / 3600) ++ ":" ++ twoDigits (seconds / 60 % 60) ++ ":" ++
    twoDigits (seconds % 60)

/-- A time of day to the millisecond. -/
def timeText (nanos : Nat) : Text := clockText nanos ++ "." ++ fractionText 3 nanos

/-- A day, counted as in `Date.ofDay`, and a time of that day. -/
structure Moment where
  day : Int
  nanos : Nat
deriving DecidableEq, Repr

namespace Moment

/-- The moment that lies `minutes` later. -/
def shift (moment : Moment) (minutes : Int) : Moment :=
  let nanos : Int := moment.nanos + minutes * (60 * nanosPerSecond : Nat)
  ⟨moment.day + nanos / nanosPerDay, (nanos % nanosPerDay).toNat⟩

/-- Date and time to the millisecond. -/
def text (moment : Moment) : Text :=
  (Date.ofDay moment.day).text ++ " " ++ timeText moment.nanos

/-- The fewest groups of three digits that show a fraction of a second in full. -/
def fullFraction (nanos : Nat) : Text :=
  let fraction := nanos % nanosPerSecond
  if fraction = 0 then []
  else if fraction % 1000000 = 0 then '.' :: fractionText 3 nanos
  else if fraction % 1000 = 0 then '.' :: fractionText 6 nanos
  else '.' :: fractionText 9 nanos

/-- Hours and minutes of an offset from universal time, with a sign. -/
def offsetText (minutes : Int) : Text :=
  (if minutes < 0 then '-' else '+') :: twoDigits (minutes.natAbs / 60) ++ ":" ++
    twoDigits (minutes.natAbs % 60)

/-- A moment of universal time as a clock with this offset shows it. -/
def zonedText (moment : Moment) (offset : Int) : Text :=
  let there := moment.shift offset
  (Date.ofDay there.day).text ++ "T" ++ clockText there.nanos ++ fullFraction there.nanos ++
    offsetText offset

end Moment

end Calendar

end SqlBuild
