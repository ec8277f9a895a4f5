import SqlBuild.Text.Digit

/-!
# Binary floating-point numbers

A format fixes how many bits a mantissa has and which exponents its last bit may have. A number of
a format is a whole mantissa times a power of two. `nearest` gives the number of a format next to a
quotient: halfway between two, the one with the even mantissa, and beyond the largest, infinity.
-/

namespace SqlBuild

structure FloatFormat where
  precision : Nat
  minExponent : Int
  maxExponent : Int
deriving DecidableEq, Repr

namespace FloatFormat

/-- The format of 64 bits. -/
def double : FloatFormat := ⟨53, -1074, 971⟩

/-- The format of 32 bits. -/
def single : FloatFormat := ⟨24, -149, 104⟩

end FloatFormat

inductive Floating
  /-- The number `mantissa * 2 ^ exponent`, below zero if `negative`; zero has a sign too. -/
  | finite (negative : Bool) (mantissa : Nat) (exponent : Int)
  | infinite (negative : Bool)
  | nan
deriving DecidableEq, Repr

namespace Floating

/-- The quotient rounded to a whole number, a half to the even neighbour. -/
def roundEven (num den : Nat) : Nat :=
  let below := num / den
  let rest := num % den
  if 2 * rest < den then below
  else if den < 2 * rest then below + 1
  else below + below % 2

/-- Numerator and denominator of `num / den / b ^ k`. -/
def descale (b : Nat) (num den : Nat) (k : Int) : Nat × Nat :=
  (num * Nat.pow b (-k).toNat, den * Nat.pow b k.toNat)

/-- The exponent of the last bit of the numbers around a positive quotient. -/
def exponentAt (format : FloatFormat) (num den : Nat) : Int :=
  let least : Int := Nat.log2 num - Nat.log2 den - format.precision
  let (n, d) := descale 2 num den least
  max format.minExponent (if n < Nat.pow 2 format.precision * d then least else least + 1)

/-- The number next to a quotient. -/
def nearest (format : FloatFormat) (negative : Bool) (num den : Nat) : Floating :=
  if num = 0 then finite negative 0 format.minExponent
  else
    let exponent := exponentAt format num den
    let (n, d) := descale 2 num den exponent
    let mantissa := roundEven n d
    let (mantissa, exponent) :=
      if mantissa = Nat.pow 2 format.precision then
        (Nat.pow 2 (format.precision - 1), exponent + 1)
      else (mantissa, exponent)
    if format.maxExponent < exponent then infinite negative
    else finite negative mantissa exponent

/-- The number next to `digits * 10 ^ power`. -/
def ofDecimal (format : FloatFormat) (negative : Bool) (digits : Nat) (power : Int) : Floating :=
  nearest format negative (digits * Nat.pow 10 power.toNat) (Nat.pow 10 (-power).toNat)

/-- The number next to a number divided by `den`. -/
def divNat (format : FloatFormat) (den : Nat) : Floating → Floating
  | finite negative mantissa exponent =>
    let (n, d) := descale 2 mantissa den (-exponent)
    nearest format negative n d
  | value => value

end Floating

end SqlBuild
