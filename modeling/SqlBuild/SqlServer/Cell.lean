import SqlBuild.Bulk.Row
import SqlBuild.Calendar.Clock
import SqlBuild.Floating.Shortest
import SqlBuild.Text.Printable
import SqlBuild.Text.Utf8

/-!
# Cells of a result set

A cell holds a value of one of the server's types; a missing value is no cell. This module says how
every value is written: numbers in full and without exponents, dates and times to the millisecond
with the rest cut off, bytes in hexadecimal digits.

The types are those in which the driver `tiberius` hands over cells. Writing them takes in what the
driver does for that, which is how it displays a `Numeric` and an `XmlData`, turns money into a
float and counts days and ticks, and what the library `chrono` does, which is its calendar and the
formats `%Y-%m-%d %H:%M:%S%.3f` and RFC 3339.
-/

namespace SqlBuild

namespace SqlServer

open Calendar

inductive Cell
  | integer (value : Int)
  | float (format : FloatFormat) (value : Floating)
  /-- An amount in ten-thousandths. -/
  | money (units : Int)
  | bit (value : Bool)
  | text (value : Text)
  | guid (value : Text)
  /-- The number `value / 10 ^ scale`. -/
  | numeric (value : Int) (scale : Nat)
  | binary (bytes : Bytes)
  /-- Days since the start of 1900, and a time in units of 1/300 second. -/
  | datetime (day : Int) (ticks : Nat)
  /-- Days since the start of 1900, and a time in minutes. -/
  | smalldatetime (day minutes : Nat)
  /-- Days since the start of year 1. -/
  | date (day : Nat)
  /-- A time in units of `10 ^ -scale` seconds. -/
  | time (increments scale : Nat)
  | datetime2 (day increments scale : Nat)
  /-- A moment of universal time, and the minutes by which the clock is ahead of it. -/
  | datetimeoffset (day increments scale : Nat) (offset : Int)
  | xml (data : Text)
deriving DecidableEq, Repr

namespace Cell

/-- The first day of 1900. -/
def epoch : Int := firstDay 1900

/-- A whole number with zeros in front up to `width` characters, its sign included. -/
def zeroPadded (width : Nat) (n : Int) : Text :=
  if n < 0 then '-' :: (Text.ofNat n.natAbs).leftpad (width - 1) '0'
  else (Text.ofNat n.natAbs).leftpad width '0'

/-- Quotient and remainder by `10 ^ scale` with a point between them. Both are cut off toward zero,
so that the remainder of a number below zero has a sign of its own. -/
def numericText (value : Int) (scale : Nat) : Text :=
  let unit : Int := Nat.pow 10 scale
  Text.ofInt (value.tdiv unit) ++ "." ++ zeroPadded scale (value.tmod unit)

/-- An amount of money as a number of 64 bits, which rounds amounts of more than 15 digits. -/
def ofMoney (units : Int) : Floating :=
  Floating.divNat .double 10000 (Floating.nearest .double (units < 0) units.natAbs 1)

/-- Bytes as pairs of hexadecimal digits. -/
def hexText (bytes : Bytes) : Text := bytes.flatMap fun b => (Text.hex b.toNat).leftpad 2 '0'

/-- Nanoseconds of a time in units of 1/300 second. A time beyond midnight starts again at zero. -/
def ticksToNanos (ticks : Nat) : Nat := ticks * nanosPerSecond / 300 % nanosPerDay

/-- Nanoseconds of a time in units of `10 ^ -scale` seconds. -/
def scaledToNanos (increments scale : Nat) : Nat :=
  increments * Nat.pow 10 (9 - scale) % nanosPerDay

/-- How a cell is written. -/
def toText : Cell → Text
  | integer value => Text.ofInt value
  | float format value => value.text format
  | money units => (ofMoney units).text .double
  | bit value => if value then "1" else "0"
  | text value => value
  | guid value => Text.lower value
  | numeric value scale => numericText value scale
  | binary bytes => "0x" ++ hexText bytes
  | datetime day ticks => Moment.text ⟨epoch + day, ticksToNanos ticks⟩
  | smalldatetime day minutes =>
    Moment.text ⟨epoch + day, minutes * 60 * nanosPerSecond % nanosPerDay⟩
  | date day => (Date.ofDay day).text
  | time increments scale => timeText (scaledToNanos increments scale)
  | datetime2 day increments scale => Moment.text ⟨day, scaledToNanos increments scale⟩
  | datetimeoffset day increments scale offset =>
    Moment.zonedText ⟨day, scaledToNanos increments scale⟩ offset
  | xml data => "XmlData \x7b data: " ++ Text.escaped data ++ ", schema: None \x7d"

end Cell

/-- The cells of a row as the server sends them. -/
abbrev Cells := List (Option Cell)

namespace Cells

/-- The texts of the cells that hold a value. -/
def texts (cells : Cells) : List (Option Text) := cells.map fun cell => cell.map Cell.toText

/-- The row in which a missing value is empty. -/
def row (cells : Cells) : Row := cells.texts.map (Option.getD · [])

end Cells

end SqlServer

end SqlBuild
