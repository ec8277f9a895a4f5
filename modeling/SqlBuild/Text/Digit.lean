import SqlBuild.Text.Basic

/-!
# Digits and numbers

`isDecimalDigit` is the Unicode class `Nd`: runs of ten characters, each starting at a zero.
Numbers are read and written with the ten ASCII digits only; a reader refuses what does not fit its
range.
-/

namespace SqlBuild

/-- The zeros of the decimal digits of all scripts; the other nine digits follow each of them. -/
def decimalZeros : List Nat :=
  [
    0x0030, 0x0660, 0x06F0, 0x07C0, 0x0966, 0x09E6, 0x0A66, 0x0AE6,
    0x0B66, 0x0BE6, 0x0C66, 0x0CE6, 0x0D66, 0x0DE6, 0x0E50, 0x0ED0,
    0x0F20, 0x1040, 0x1090, 0x17E0, 0x1810, 0x1946, 0x19D0, 0x1A80,
    0x1A90, 0x1B50, 0x1BB0, 0x1C40, 0x1C50, 0xA620, 0xA8D0, 0xA900,
    0xA9D0, 0xA9F0, 0xAA50, 0xABF0, 0xFF10, 0x104A0, 0x10D30, 0x10D40,
    0x11066, 0x110F0, 0x11136, 0x111D0, 0x112F0, 0x11450, 0x114D0, 0x11650,
    0x116C0, 0x116D0, 0x116DA, 0x11730, 0x118E0, 0x11950, 0x11BF0, 0x11C50,
    0x11D50, 0x11DA0, 0x11F50, 0x16130, 0x16A60, 0x16AC0, 0x16B50, 0x16D70,
    0x1CCF0, 0x1D7CE, 0x1D7D8, 0x1D7E2, 0x1D7EC, 0x1D7F6, 0x1E140, 0x1E2F0,
    0x1E4F0, 0x1E5F1, 0x1E950, 0x1FBF0]

/-- The Unicode class `Nd`. -/
def isDecimalDigit (c : Char) : Bool := decimalZeros.any fun z => z ≤ c.toNat && c.toNat < z + 10

namespace Text

/-- The ASCII digits of a number, most significant first. -/
def ofNat (n : Nat) : Text := Nat.toDigits 10 n

/-- A minus sign before the digits of a negative number. -/
def ofInt : Int → Text
  | .ofNat n => ofNat n
  | .negSucc n => '-' :: ofNat (n + 1)

/-- The number written with one or more ASCII digits. -/
def digits? (t : Text) : Option Nat :=
  if t ≠ [] ∧ t.all Char.isDigit then
    some (t.foldl (fun n c => 10 * n + (c.toNat - '0'.toNat)) 0)
  else none

/-- A number below `2 ^ bits`; a plus sign may stand before it. -/
def unsigned? (bits : Nat) (t : Text) : Option Nat :=
  let body := match t with
    | '+' :: r => r
    | r => r
  (digits? body).filter (· < Nat.pow 2 bits)

/-- A number of `bits` bits in two's complement; a sign may stand before it. -/
def signed? (bits : Nat) (t : Text) : Option Int :=
  let read : Option Int := match t with
    | '-' :: r => (digits? r).map fun n => -(n : Int)
    | '+' :: r => (digits? r).map Int.ofNat
    | r => (digits? r).map Int.ofNat
  let half : Int := Nat.pow 2 (bits - 1)
  read.filter fun i => -half ≤ i ∧ i < half

end Text

end SqlBuild
