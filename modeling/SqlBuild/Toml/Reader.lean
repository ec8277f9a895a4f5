import SqlBuild.Toml.Scalar

/-!
# Reading TOML

Every reader takes the input and gives a value and the rest, or nothing when the input does not
start with what it reads. Values may be nested eighty deep.

This stands for what the library `toml` reads: which documents it accepts, with its limit to the
depth of values, and what their tables, arrays, texts, integers and booleans are. Where it finds
fault with a document and in which words is left out.
-/

namespace SqlBuild

namespace Toml

/-- A character that may stand in a comment or a text on one line. -/
def isPlain (c : Char) : Bool := c == '\t' || (0x20 ≤ c.toNat && c.toNat != 0x7F)

/-- A character that may stand in a text of several lines. A carriage return always has its line
feed (`ofText?`). -/
def isPlainOrLineEnd (c : Char) : Bool := isPlain c || c == '\n' || c == '\r'

def isSpace (c : Char) : Bool := c == ' ' || c == '\t'

def isSpaceOrLineEnd (c : Char) : Bool := isSpace c || c == '\n' || c == '\r'

def skipSpaces (t : Text) : Text := t.dropWhile isSpace

/-- Passes over spaces, line ends and comments. -/
def skipFiller (inComment : Bool) : Text → Text
  | [] => []
  | c :: r =>
    if inComment then
      if c = '\n' then skipFiller false r
      else if isPlain c || c == '\r' then skipFiller true r
      else c :: r
    else if c = '#' then skipFiller true r
    else if isSpaceOrLineEnd c then skipFiller false r
    else c :: r

/-- Without a line end at the start. -/
def dropLineEnd : Text → Text
  | '\n' :: r | '\r' :: '\n' :: r => r
  | r => r

/-! ### Texts -/

/-- The character with the hexadecimal number of `width` digits. -/
def scalar? (width : Nat) (t : Text) : Option Char :=
  let digits := t.take width
  let n := valueIn 16 digits
  if digits.length = width ∧ digits.all (isDigitIn 16) ∧ n.isValidChar then some (Char.ofNat n)
  else none

/-- The character an escape stands for, and how many characters it has behind the backslash. -/
def escape? : Text → Option (Char × Nat)
  | 'b' :: _ => some ('\x08', 1)
  | 't' :: _ => some ('\t', 1)
  | 'n' :: _ => some ('\n', 1)
  | 'f' :: _ => some ('\x0C', 1)
  | 'r' :: _ => some ('\r', 1)
  | '"' :: _ => some ('"', 1)
  | '\\' :: _ => some ('\\', 1)
  | 'u' :: r => (scalar? 4 r).map (·, 5)
  | 'U' :: r => (scalar? 8 r).map (·, 9)
  | _ => none

/-- A text up to its closing quote, after passing over `k` characters; `acc` holds the characters
before, last one first. -/
def basicFrom (k : Nat) (acc : Text) : Text → Option (Text × Text)
  | [] => none
  | c :: r =>
    match k with
    | k + 1 => basicFrom k acc r
    | 0 =>
      if c = '"' then some (acc.reverse, r)
      else if c = '\\' then
        match escape? r with
        | some (d, n) => basicFrom n (d :: acc) r
        | none => none
      else if isPlain c then basicFrom 0 (c :: acc) r
      else none

/-- A text without escapes, up to its closing quote. -/
def literal (t : Text) : Option (Text × Text) :=
  let content := t.takeWhile (· ≠ '\x27')
  if '\x27' ∈ t ∧ content.all isPlain then some (content, t.drop (content.length + 1)) else none

/-- Three or more quotes at the start of the input end a text; up to two more belong to it. -/
def closing? (quote : Char) (t : Text) : Option (Text × Text) :=
  let quotes := min 5 (t.takeWhile (· == quote)).length
  if 3 ≤ quotes then some (List.replicate (quotes - 3) quote, t.drop quotes) else none

/-- A text of several lines, after passing over `k` characters. A backslash at the end of a line
joins it with the next text. -/
def basicLinesFrom (k : Nat) (acc : Text) : Text → Option (Text × Text)
  | [] => none
  | c :: r =>
    match k with
    | k + 1 => basicLinesFrom k acc r
    | 0 =>
      match closing? '"' (c :: r) with
      | some (quotes, rest) => some (acc.reverse ++ quotes, rest)
      | none =>
        if c = '\\' then
          if ((skipSpaces r).head?).any fun d => d == '\n' || d == '\r' then
            basicLinesFrom (r.takeWhile isSpaceOrLineEnd).length acc r
          else
            match escape? r with
            | some (d, n) => basicLinesFrom n (d :: acc) r
            | none => none
        else if isPlainOrLineEnd c then basicLinesFrom 0 (c :: acc) r
        else none

/-- A text of several lines without escapes. -/
def literalLinesFrom (acc : Text) : Text → Option (Text × Text)
  | [] => none
  | c :: r =>
    match closing? '\x27' (c :: r) with
    | some (quotes, rest) => some (acc.reverse ++ quotes, rest)
    | none => if isPlainOrLineEnd c then literalLinesFrom (c :: acc) r else none

/-- A text in quotes of any kind. -/
def quoted : Text → Option (Text × Text)
  | '"' :: '"' :: '"' :: r => basicLinesFrom 0 [] (dropLineEnd r)
  | '"' :: r => basicFrom 0 [] r
  | '\x27' :: '\x27' :: '\x27' :: r => literalLinesFrom [] (dropLineEnd r)
  | '\x27' :: r => literal r
  | _ => none

/-! ### Keys -/

/-- A character of a key without quotes. -/
def isBare (c : Char) : Bool := c.isAlphanum || c == '_' || c == '-'

/-- One part of a key. -/
def keyPart : Text → Option (Text × Text)
  | '"' :: r => basicFrom 0 [] r
  | '\x27' :: r => literal r
  | t =>
    let bare := t.takeWhile isBare
    if bare = [] then none else some (bare, t.drop bare.length)

/-- At most `count` parts of a key, dots between them. -/
def keyParts : Nat → Text → Option (List Text × Text)
  | 0, _ => none
  | count + 1, t => do
    let (part, r) ← keyPart (skipSpaces t)
    match skipSpaces r with
    | '.' :: r =>
      let (parts, r) ← keyParts count r
      return (part :: parts, r)
    | r => return ([part], r)

/-- A key, dotted or not, with the spaces around it. -/
def key (t : Text) : Option (List Text × Text) := keyParts (t.length + 1) t

/-! ### Values -/

/-- A character of a word. -/
def isWordPart (c : Char) : Bool :=
  c.isAlphanum || c == '_' || c == '+' || c == '-' || c == '.' || c == ':'

/-- A word; a date and a time may have a space between them. -/
def word (t : Text) : Option (Toml × Text) :=
  let first := t.takeWhile isWordPart
  let rest := t.drop first.length
  let whole := match rest with
    | ' ' :: d :: r =>
      if isDate first && d.isDigit then first ++ ' ' :: (d :: r).takeWhile isWordPart else first
    | _ => first
  (ofWord? whole).map (·, t.drop whole.length)

/-- The items of an array behind its bracket, at most `count` of them. -/
def itemsWith (value : Text → Option (Toml × Text)) : Nat → Text → Option (List Toml × Text)
  | 0, _ => none
  | count + 1, t =>
    match skipFiller false t with
    | ']' :: r => some ([], r)
    | t => do
      let (item, r) ← value t
      match skipFiller false r with
      | ',' :: r =>
        let (items, r) ← itemsWith value count r
        return (item :: items, r)
      | ']' :: r => return ([item], r)
      | _ => none

/-- The entries of a table behind its brace, at most `count` of them. -/
def entriesWith (value : Text → Option (Toml × Text)) :
    Nat → Entries → Text → Option (Entries × Text)
  | 0, _, _ => none
  | count + 1, entries, t => do
    match ← key t with
    | (path, '=' :: r) =>
      let (content, r) ← value (skipSpaces r)
      let entries ← assign content path entries
      match skipSpaces r with
      | ',' :: r => entriesWith value count entries r
      | '}' :: r => return (entries, r)
      | _ => none
    | _ => none

/-- A value with at most `depth` arrays and tables around its innermost one. -/
def valueWithin : Nat → Text → Option (Toml × Text)
  | 0, t =>
    match t with
    | '"' :: _ | '\x27' :: _ => (quoted t).map fun (content, r) => (text content, r)
    | _ => word t
  | depth + 1, t =>
    match t with
    | '"' :: _ | '\x27' :: _ => (quoted t).map fun (content, r) => (text content, r)
    | '[' :: r => (itemsWith (valueWithin depth) t.length r).map fun (items, r) =>
      (array false items, r)
    | '{' :: r =>
      match skipSpaces r with
      | '}' :: r => some (table .braces [], r)
      | r => (entriesWith (valueWithin depth) t.length [] r).map fun (entries, r) =>
        (table .braces entries, r)
    | _ => word t

/-- How deep values may be nested. -/
def maxDepth : Nat := 80

def value (t : Text) : Option (Toml × Text) := valueWithin maxDepth t

/-! ### Documents -/

/-- The rest of a line behind a statement: spaces and a comment. -/
def lineEnd (t : Text) : Option Text :=
  let r := match skipSpaces t with
    | '#' :: r => r.dropWhile isPlain
    | r => r
  match r with
  | [] => some []
  | '\n' :: r | '\r' :: '\n' :: r => some r
  | _ => none

/-- The document so far, and the header that is in force. -/
structure Draft where
  entries : Entries := []
  header : List Text := []

/-- One statement: a header or a key with its value. -/
def statement (draft : Draft) : Text → Option (Draft × Text)
  | '[' :: '[' :: r => do
    match ← key r with
    | (path, ']' :: ']' :: r) => return (⟨← openItem path draft.entries, path⟩, r)
    | _ => none
  | '[' :: r => do
    match ← key r with
    | (path, ']' :: r) => return (⟨← openTable path draft.entries, path⟩, r)
    | _ => none
  | t => do
    match ← key t with
    | (path, '=' :: r) =>
      let (content, r) ← value (skipSpaces r)
      return ({ draft with entries := ← assignIn content path draft.header draft.entries }, r)
    | _ => none

/-- At most `count` statements, up to the end of the input. -/
def statements : Nat → Draft → Text → Option Entries
  | 0, _, _ => none
  | count + 1, draft, t =>
    match skipFiller false t with
    | [] => some draft.entries
    | t => do
      let (draft, r) ← statement draft t
      statements count draft (← lineEnd r)

/-- Whether every carriage return has a line feed behind it. -/
def hasWholeLineEnds : Text → Bool
  | [] => true
  | '\r' :: '\n' :: r => hasWholeLineEnds r
  | c :: r => c != '\r' && hasWholeLineEnds r

/-- The entries of a document; a byte order mark may stand at its start. -/
def ofText? (t : Text) : Option Entries :=
  let t := match t with
    | '\uFEFF' :: r => r
    | r => r
  if hasWholeLineEnds t then statements (t.length + 1) {} t else none

end Toml

end SqlBuild
