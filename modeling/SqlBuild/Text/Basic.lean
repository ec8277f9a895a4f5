import SqlBuild.Text.Blank

/-!
# Text

A text is its list of characters. This module holds the operations every format of the library is
described with: ASCII case, prefixes, trimming, words, lines, joining, replacing and padding.

A line ends at a line feed; a carriage return right before that line feed belongs to the line end
(`lines`). Columns are counted in characters unless a function says bytes.
-/

namespace SqlBuild

/-- A text is the list of its characters. -/
abbrev Text := List Char

instance : Coe String Text := ⟨String.toList⟩

namespace Text

/-- ASCII letters in lower case, every other character as it is. -/
def lower (t : Text) : Text := t.map Char.toLower

/-- ASCII letters in upper case, every other character as it is. -/
def upper (t : Text) : Text := t.map Char.toUpper

/-- Equal up to the case of ASCII letters. -/
def sameIgnoringCase (s t : Text) : Bool := lower s == lower t

/-- The number of bytes of the UTF-8 form. -/
def byteLength (t : Text) : Nat := t.foldr (fun c n => c.utf8Size + n) 0

/-- What follows `p`, when `t` starts with it. -/
def after? : Text → Text → Option Text
  | [], t => some t
  | _ :: _, [] => none
  | a :: p, c :: t => if a = c then after? p t else none

@[simp] theorem after?_eq_some {p t r : Text} : after? p t = some r ↔ t = p ++ r := by
  induction p generalizing t with
  | nil => simp [after?]
  | cons a p ih =>
    cases t with
    | nil => simp [after?]
    | cons c t =>
      by_cases h : a = c
      · simp [after?, h, ih]
      · simp [after?, h, Ne.symm h]

/-- What precedes `s`, when `t` ends with it. -/
def before? (s t : Text) : Option Text := (after? s.reverse t.reverse).map List.reverse

theorem before?_eq_some {s t r : Text} : before? s t = some r ↔ t = r ++ s := by
  rw [before?, Option.map_eq_some_iff]
  constructor
  · rintro ⟨u, hu, rfl⟩
    rw [← List.reverse_inj, after?_eq_some.1 hu]
    simp
  · rintro rfl
    exact ⟨r.reverse, after?_eq_some.2 List.reverse_append, List.reverse_reverse r⟩

/-- What follows `p`, when `t` starts with it up to the case of ASCII letters. -/
def afterIgnoringCase? (p t : Text) : Option Text :=
  if sameIgnoringCase (t.take p.length) p then some (t.drop p.length) else none

/-- Whether `p` stands at the start of `t`. -/
def startsWith (t p : Text) : Bool := p.isPrefixOf t

/-- Whether `s` stands at the end of `t`. -/
def endsWith (t s : Text) : Bool := s.isSuffixOf t

/-! ### Blanks -/

def trimStart (t : Text) : Text := t.dropWhile isBlank

/-- Without the characters at the end that satisfy `p`. -/
def dropEndWhile (p : Char → Bool) (t : Text) : Text := (t.reverse.dropWhile p).reverse

def trimEnd (t : Text) : Text := t.dropEndWhile isBlank

def trim (t : Text) : Text := t.trimStart.trimEnd

/-- Nothing but white space. -/
def isAllBlank (t : Text) : Bool := t.all isBlank

/-- The maximal runs of characters other than white space. -/
def words (t : Text) : List Text := (t.splitOnP isBlank).filter (· ≠ [])

/-- The first word and what follows it, both without the blanks around them. -/
def firstWord (t : Text) : Text × Text :=
  let (word, rest) := t.trimStart.span (!isBlank ·)
  (word, trim rest)

/-! ### Lines -/

/-- Without one carriage return at the end. -/
def dropReturn (t : Text) : Text := if t.getLast? = some '\r' then t.dropLast else t

/-- The lines of a text, without their line ends. What follows the last line feed is a line when it
is not empty, and keeps a carriage return at its end. -/
def lines (t : Text) : List Text :=
  let pieces := t.splitOn '\n'
  let last := pieces.getLast?.getD []
  pieces.dropLast.map dropReturn ++ (if last = [] then [] else [last])

/-- Every line followed by a line feed. -/
def unlines (ls : List Text) : Text := ls.flatMap (· ++ ['\n'])

/-- The texts one after the other, `sep` between neighbours. -/
def join (sep : Text) (ts : List Text) : Text := sep.intercalate ts

/-! ### Searching and replacing -/

/-- The parts before and after the first `p` in a text. -/
def splitAt? (p : Text) : Text → Option (Text × Text)
  | [] => if p = [] then some ([], []) else none
  | c :: r =>
    match after? p (c :: r) with
    | some rest => some ([], rest)
    | none => (splitAt? p r).map fun (a, b) => (c :: a, b)

/-- Whether `p` occurs in `t`. -/
def contains (t p : Text) : Bool :=
  match t with
  | [] => p.isEmpty
  | c :: r => startsWith (c :: r) p || contains r p

/-- What `replace p r` does after passing over the next `k` characters, which belong to an
occurrence. -/
def replaceFrom (p r : Text) : Nat → Text → Text
  | _, [] => []
  | k + 1, _ :: t => replaceFrom p r k t
  | 0, c :: t =>
    if startsWith (c :: t) p then r ++ replaceFrom p r (p.length - 1) t
    else c :: replaceFrom p r 0 t

/-- Every occurrence of the non-empty text `p`, taken from left to right, becomes `r`. -/
def replace (p r t : Text) : Text := if p = [] then t else replaceFrom p r 0 t

/-- Every character `c` becomes the text `r`. -/
def replaceChar (t : Text) (c : Char) (r : Text) : Text :=
  t.flatMap fun d => if d = c then r else [d]

/-- Single quotes doubled, as inside a string literal of SQL. -/
def doubleQuotes (t : Text) : Text := t.replaceChar '\x27' ['\x27', '\x27']

/-! ### Columns -/

/-- Blanks added at the end up to `n` characters. -/
def padEnd (n : Nat) (t : Text) : Text := t.rightpad n ' '

/-- Blanks added at the start up to `n` characters. -/
def padStart (n : Nat) (t : Text) : Text := t.leftpad n ' '

/-- The parts before and after byte `n` of the UTF-8 form, when a character ends there. -/
def splitAtByte? : Nat → Text → Option (Text × Text)
  | 0, t => some ([], t)
  | _ + 1, [] => none
  | n + 1, c :: r =>
    if c.utf8Size ≤ n + 1 then (splitAtByte? (n + 1 - c.utf8Size) r).map fun (a, b) => (c :: a, b)
    else none

end Text

end SqlBuild
