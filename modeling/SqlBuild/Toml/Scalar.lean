import SqlBuild.Calendar.Month
import SqlBuild.Toml.Value

/-!
# Words of a TOML document

A value that starts with no quote, bracket or brace is a word: a boolean, an integer in one of four
bases, a float, or a date and time. Single underscores may stand between the digits of a number.
-/

namespace SqlBuild

namespace Toml

/-- The value of a hexadecimal digit. -/
def digitValue (c : Char) : Nat :=
  if c.isDigit then c.toNat - '0'.toNat
  else if c.isLower then c.toNat - 'a'.toNat + 10
  else c.toNat - 'A'.toNat + 10

/-- A digit in one of the bases up to sixteen. -/
def isDigitIn (base : Nat) (c : Char) : Bool :=
  (c.isDigit || ('a' ≤ c && c ≤ 'f') || ('A' ≤ c && c ≤ 'F')) && decide (digitValue c < base)

/-- The number that digits stand for. -/
def valueIn (base : Nat) (digits : Text) : Nat :=
  digits.foldl (fun n c => base * n + digitValue c) 0

/-- One or more digits, single underscores between them. -/
def isMarkedDigits (base : Nat) (t : Text) : Bool :=
  (t.splitOn '_').all fun group => group ≠ [] && group.all (isDigitIn base)

/-- The number of digits with underscores between them. -/
def markedDigits? (base : Nat) (t : Text) : Option Nat :=
  if isMarkedDigits base t then some (valueIn base (t.filter (· ≠ '_'))) else none

/-- Without the sign in front. -/
def dropSign : Text → Text
  | '+' :: r | '-' :: r => r
  | r => r

/-- Decimal digits that do not start with a needless zero. -/
def isWhole (t : Text) : Bool := isMarkedDigits 10 t && (t.length == 1 || t.head? != some '0')

/-- Whether an integer can be kept: it fits a word of 128 bits, with or without sign. -/
def fitsWord (n : Int) : Bool :=
  decide (-(Nat.pow 2 127 : Int) ≤ n) && decide (n < (Nat.pow 2 128 : Int))

def integer? (t : Text) : Option Int :=
  let read : Option Int := match t with
    | '0' :: 'x' :: r => (markedDigits? 16 r).map Int.ofNat
    | '0' :: 'o' :: r => (markedDigits? 8 r).map Int.ofNat
    | '0' :: 'b' :: r => (markedDigits? 2 r).map Int.ofNat
    | _ =>
      if isWhole (dropSign t) then
        (markedDigits? 10 (dropSign t)).map fun n => if t.head? = some '-' then -n else n
      else none
  read.filter fitsWord

/-- Whether a decimal number with `exponent` is at least half a step above the largest float of 64
bits, so that no float is near it. -/
def isTooLarge (digits : Nat) (exponent : Int) : Bool :=
  let places := (Text.ofNat digits).length + exponent
  if digits = 0 ∨ places < 309 then false
  else if places > 309 then true
  else decide ((Nat.pow 2 1024 - Nat.pow 2 970) * Nat.pow 10 (-exponent).toNat ≤
    digits * Nat.pow 10 exponent.toNat)

/-- Whether a word is a float: a fraction or an exponent behind a whole number, an infinity or a
number that is none. -/
def isFloat (t : Text) : Bool :=
  let body := dropSign t
  let mantissa := body.takeWhile fun c => c != 'e' && c != 'E'
  let power := body.drop mantissa.length
  let whole := mantissa.takeWhile (· ≠ '.')
  let fraction := mantissa.drop whole.length
  if body = "inf" ∨ body = "nan" then true
  else if !isWhole whole || (fraction = [] && power = []) ||
      (fraction ≠ [] && !isMarkedDigits 10 (fraction.drop 1)) ||
      (power ≠ [] && !isMarkedDigits 10 (dropSign (power.drop 1))) then false
  else
    let places := (fraction.drop 1).filter (· ≠ '_')
    let digits := valueIn 10 (whole.filter (· ≠ '_') ++ places)
    let size : Int := valueIn 10 ((dropSign (power.drop 1)).filter (· ≠ '_'))
    let exponent := if (power.drop 1).head? = some '-' then -size else size
    !isTooLarge digits (exponent - places.length)

/-- A number of exactly `width` decimal digits. -/
def fixed? (width : Nat) (t : Text) : Option Nat :=
  if t.length = width then Text.digits? t else none

def isDate (t : Text) : Bool :=
  match (t.splitOn '-') with
  | [year, month, day] =>
    match fixed? 4 year, fixed? 2 month, fixed? 2 day with
    | some year, some month, some day =>
      1 ≤ day && day ≤ Calendar.daysInMonth year month
    | _, _, _ => false
  | _ => false

/-- Hours and minutes with a colon between them. -/
def isClock (t : Text) : Bool :=
  match t.splitOn ':' with
  | [hour, minute] =>
    (fixed? 2 hour).any (· ≤ 23) && (fixed? 2 minute).any (· ≤ 59)
  | _ => false

/-- A time: the clock, seconds up to a leap second, and any fraction. -/
def isTime (t : Text) : Bool :=
  let seconds := t.drop 6
  let fraction := seconds.drop 2
  isClock (t.take 5) && t[5]? == some ':' && (fixed? 2 (seconds.take 2)).any (· ≤ 60) &&
    (fraction = [] || (fraction.head? == some '.' && (Text.digits? (fraction.drop 1)).isSome))

/-- A time with the distance from universal time, which may be missing. -/
def isZonedTime (t : Text) : Bool :=
  let time := t.takeWhile fun c => c.isDigit || c == ':' || c == '.'
  let zone := t.drop time.length
  isTime time && match zone with
    | [] | ['Z'] | ['z'] => true
    | '+' :: clock | '-' :: clock => isClock clock
    | _ => false

/-- Whether a word is a date, a time or both. -/
def isMoment (t : Text) : Bool :=
  let date := t.take 10
  match t.drop 10 with
  | [] => isDate date || isTime t
  | c :: time =>
    (isDate date && (c == 'T' || c == 't' || c == ' ') && isZonedTime time) || isTime t

/-- The value of a word. -/
def ofWord? (t : Text) : Option Toml :=
  if t = "true" then some (boolean true)
  else if t = "false" then some (boolean false)
  else
    match integer? t with
    | some n => some (integer n)
    | none => if isFloat t || isMoment t then some (written t) else none

end Toml

end SqlBuild
