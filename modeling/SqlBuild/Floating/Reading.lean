import SqlBuild.Floating.Value

/-!
# Reading floating-point numbers

A number is written with digits, a point among them if it has a fraction, and a power of ten behind
`e` if it has one; or as `inf` or `nan` in any case. The value is the number of the format next to
what is written.
-/

namespace SqlBuild

namespace Floating

/-- A sign and what follows it. -/
def splitSign : Text → Bool × Text
  | '-' :: t => (true, t)
  | '+' :: t => (false, t)
  | t => (false, t)

/-- The power of ten behind `e`; without one it is zero. -/
def power? : Text → Option Int
  | [] => some 0
  | _ :: digits => Text.signed? 64 digits

/-- The number next to the one that is written. -/
def ofText? (format : FloatFormat) (t : Text) : Option Floating :=
  let (negative, body) := splitSign t
  let body := Text.lower body
  if body = "inf" ∨ body = "infinity" then some (infinite negative)
  else if body = "nan" then some nan
  else
    let mantissa := body.takeWhile (· ≠ 'e')
    let whole := mantissa.takeWhile (· ≠ '.')
    let fraction := mantissa.drop (whole.length + 1)
    match Text.digits? (whole ++ fraction), power? (body.drop mantissa.length) with
    | some digits, some power =>
      some (ofDecimal format negative digits (power - (fraction.length : Int)))
    | _, _ => none

end Floating

end SqlBuild
