import SqlBuild.Floating.Value

/-!
# The shortest decimal form of a floating-point number

All decimals between the midpoints to the two neighbours of a number read back as that number; the
midpoints do so themselves when its mantissa is even. On the grid of decimals with a given number of
digits only the two neighbours of the number can be the nearest of these, so the shortest form is
the nearer one on the first grid where either reads back. Halfway between both it is the upper one.

The text has no exponent, however long it gets.
-/

namespace SqlBuild

/-- A positive number by its distance to zero and the ends of what reads back as it, all as
numerators over one denominator. -/
structure RoundingRange where
  low : Nat
  value : Nat
  high : Nat
  den : Nat
  /-- Whether the ends themselves read back. -/
  closed : Bool

namespace RoundingRange

/-- The range of a mantissa and an exponent. The gap below a power of two is half as wide as the one
above it, unless the exponent is the least one. -/
def of (format : FloatFormat) (mantissa : Nat) (exponent : Int) : RoundingRange :=
  let narrow := mantissa = Nat.pow 2 (format.precision - 1) ∧ format.minExponent < exponent
  let scale := Nat.pow 2 (exponent - 2).toNat
  { low := (4 * mantissa - if narrow then 1 else 2) * scale
    value := 4 * mantissa * scale
    high := (4 * mantissa + 2) * scale
    den := Nat.pow 2 (2 - exponent).toNat
    closed := mantissa % 2 == 0 }

/-- The exponent of ten of the first digit. -/
def leading (range : RoundingRange) : Int :=
  let near : Int :=
    (Text.ofNat range.value).length - ((Text.ofNat range.den).length : Int)
  let (n, d) := Floating.descale 10 range.value range.den near
  if d ≤ n then near else near - 1

/-- Whether `digit * 10 ^ power` reads back. -/
def contains (range : RoundingRange) (digits : Nat) (power : Int) : Bool :=
  let x := digits * Nat.pow 10 power.toNat * range.den
  let shift := Nat.pow 10 (-power).toNat
  if range.closed then range.low * shift ≤ x && x ≤ range.high * shift
  else range.low * shift < x && x < range.high * shift

/-- The digits, counted in `10 ^ power`, of the nearest decimal on that grid that reads back. -/
def onGrid? (range : RoundingRange) (power : Int) : Option Nat :=
  let (n, d) := Floating.descale 10 range.value range.den power
  let below := n / d
  match range.contains below power, range.contains (below + 1) power with
  | false, false => none
  | true, false => some below
  | false, true => some (below + 1)
  | true, true => some (if 2 * (n % d) < d then below else below + 1)

/-- The shortest decimal with at most `count` more digits than those down to `10 ^ power`, as digits
and the power of ten they count; after that, the digits in full. -/
def search (range : RoundingRange) : Nat → Int → Nat × Int
  | 0, power =>
    let (n, d) := Floating.descale 10 range.value range.den power
    (n / d, power)
  | count + 1, power =>
    match range.onGrid? power with
    | some digits => (digits, power)
    | none => search range count (power - 1)

end RoundingRange

namespace Floating

/-- The digits enough for every number of a format. -/
def maxDigits (format : FloatFormat) : Nat := format.precision * 302 / 1000 + 2

/-- The number `digits * 10 ^ power` written out, without zeros at the end of a fraction. -/
def positional (digits : Nat) (power : Int) : Text :=
  if 0 ≤ power then Text.ofNat digits ++ List.replicate power.toNat '0'
  else
    let places := (-power).toNat
    let whole := digits / Nat.pow 10 places
    let fraction :=
      Text.dropEndWhile (· == '0') ((Text.ofNat (digits % Nat.pow 10 places)).leftpad places '0')
    if fraction = [] then Text.ofNat whole else Text.ofNat whole ++ '.' :: fraction

/-- The shortest text that reads back as a number. -/
def text (format : FloatFormat) : Floating → Text
  | nan => "NaN"
  | infinite negative => if negative then "-inf" else "inf"
  | finite negative mantissa exponent =>
    let size :=
      if mantissa = 0 then ['0']
      else
        let range := RoundingRange.of format mantissa exponent
        let (digits, power) := range.search (maxDigits format) range.leading
        positional digits power
    if negative then '-' :: size else size

end Floating

end SqlBuild
