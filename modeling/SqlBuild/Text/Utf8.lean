import SqlBuild.Text.Basic

/-!
# Texts as bytes

`decode?` reads well-formed UTF-8 and refuses anything else. `decodeLossy` reads any bytes: each
longest part that cannot be continued to a character becomes one U+FFFD.
-/

namespace SqlBuild

/-- The content of a file or of what a program prints. -/
abbrev Bytes := List UInt8

namespace Utf8

/-- Between two bytes: how many bytes the character under way still needs, the range the next one
must lie in, and the value of the bits read so far. -/
structure State where
  owed : Nat
  low : Nat
  high : Nat
  value : Nat
deriving DecidableEq, Repr

/-- Between characters. -/
def State.start : State := ⟨0, 0, 0, 0⟩

/-- The state after the first byte of a character of two or more bytes. -/
def lead? (b : Nat) : Option State :=
  if 0xC2 ≤ b ∧ b ≤ 0xDF then some ⟨1, 0x80, 0xBF, b - 0xC0⟩
  else if b = 0xE0 then some ⟨2, 0xA0, 0xBF, 0⟩
  else if b = 0xED then some ⟨2, 0x80, 0x9F, 0xD⟩
  else if 0xE1 ≤ b ∧ b ≤ 0xEF then some ⟨2, 0x80, 0xBF, b - 0xE0⟩
  else if b = 0xF0 then some ⟨3, 0x90, 0xBF, 0⟩
  else if 0xF1 ≤ b ∧ b ≤ 0xF3 then some ⟨3, 0x80, 0xBF, b - 0xF0⟩
  else if b = 0xF4 then some ⟨3, 0x80, 0x8F, 4⟩
  else none

/-- The character that stands for bytes that are none. -/
def substitute : Char := Char.ofNat 0xFFFD

/-- What a byte does: it ends a character, goes on with one, or cannot stand where it is. -/
inductive Step
  | char (c : Char)
  | more (s : State)
  | bad

/-- One byte between characters. -/
def first (b : Nat) : Step :=
  if b ≤ 0x7F then .char (Char.ofNat b) else
    match lead? b with
    | some s => .more s
    | none => .bad

/-- One byte in state `s`. -/
def next (s : State) (b : Nat) : Step :=
  if s.owed = 0 then first b
  else if s.low ≤ b ∧ b ≤ s.high then
    let value := 64 * s.value + (b - 0x80)
    if s.owed = 1 then .char (Char.ofNat value) else .more ⟨s.owed - 1, 0x80, 0xBF, value⟩
  else .bad

/-- Reads on from state `s`; `acc` holds the characters before, last one first. -/
def decodeFrom (s : State) (acc : Text) : Bytes → Option Text
  | [] => if s.owed = 0 then some acc.reverse else none
  | b :: r =>
    match next s b.toNat with
    | .char c => decodeFrom .start (c :: acc) r
    | .more s' => decodeFrom s' acc r
    | .bad => none

/-- The text whose UTF-8 form the bytes are. -/
def decode? (bytes : Bytes) : Option Text := decodeFrom .start [] bytes

/-- Reads on from state `s`; a byte that cannot continue a character may start the next one. -/
def decodeLossyFrom (s : State) (acc : Text) : Bytes → Text
  | [] => (if s.owed = 0 then acc else substitute :: acc).reverse
  | b :: r =>
    match next s b.toNat with
    | .char c => decodeLossyFrom .start (c :: acc) r
    | .more s' => decodeLossyFrom s' acc r
    | .bad =>
      if s.owed = 0 then decodeLossyFrom .start (substitute :: acc) r
      else
        match first b.toNat with
        | .char c => decodeLossyFrom .start (c :: substitute :: acc) r
        | .more s' => decodeLossyFrom s' (substitute :: acc) r
        | .bad => decodeLossyFrom .start (substitute :: substitute :: acc) r

/-- The text the bytes stand for, U+FFFD in place of what is no character. -/
def decodeLossy (bytes : Bytes) : Text := decodeLossyFrom .start [] bytes

/-- The UTF-8 form of a text. -/
def encode (t : Text) : Bytes := t.flatMap String.utf8EncodeChar

end Utf8

end SqlBuild
