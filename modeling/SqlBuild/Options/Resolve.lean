import SqlBuild.Options.Dictionary

/-!
# Resolving placeholders

One pass reads a text from left to right: where a `&` opens a placeholder that the dictionary
defines, its value is written and the pass goes on behind the closing `&`; any other `&` is kept,
and the `&` that would have closed it may open the next placeholder. Values may contain
placeholders, so passes are repeated, ten times at most.
-/

namespace SqlBuild

/-- The number of passes after which a text is left as it is. -/
def maxPasses : Nat := 10

namespace Dictionary

/-- The name between an opening `&` and the next one, given the text behind the opening one. -/
def closed? (rest : Text) : Option Text :=
  if '&' ∈ rest then some (rest.takeWhile (· ≠ '&')) else none

/-- The value of the placeholder that a `&` before `rest` opens, with the number of characters that
belong to it behind that `&`. -/
def opened? (d : Dictionary) (rest : Text) : Option (Text × Nat) := do
  let name ← closed? rest
  let value ← d.get? ('&' :: name ++ ['&'])
  pure (value, name.length + 1)

/-- One pass, after passing over the next `k` characters, which belong to a placeholder. -/
def passFrom (d : Dictionary) : Nat → Text → Text
  | _, [] => []
  | k + 1, _ :: rest => passFrom d k rest
  | 0, c :: rest =>
    if c = '&' then
      match d.opened? rest with
      | some (value, k) => value ++ passFrom d k rest
      | none => '&' :: passFrom d 0 rest
    else c :: passFrom d 0 rest

/-- One substitution pass. -/
def pass (d : Dictionary) (t : Text) : Text := d.passFrom 0 t

/-- At most `n` passes, ending early when nothing is left to do. -/
def resolveWithin (d : Dictionary) : Nat → Text → Text
  | 0, t => t
  | n + 1, t =>
    if '&' ∈ t then
      let t' := d.pass t
      if t' = t then t else d.resolveWithin n t'
    else t

/-- The text with its placeholders replaced by their values. -/
def resolve (d : Dictionary) (t : Text) : Text := d.resolveWithin maxPasses t

/-- The characters a placeholder's name is written with. -/
def isNameChar (c : Char) : Bool := c.isAlphanum || c == '_' || c == '-' || c == '#' || c == '$'

/-- The tokens `&name&` without a value, each at every place it is met, after passing over the next
`k` characters. -/
def undefinedFrom (d : Dictionary) : Nat → Text → List Text
  | _, [] => []
  | k + 1, _ :: rest => undefinedFrom d k rest
  | 0, c :: rest =>
    match if c = '&' then closed? rest else none with
    | none => undefinedFrom d 0 rest
    | some name =>
      if name ≠ [] ∧ name.all isNameChar then
        let token := '&' :: name ++ ['&']
        let more := undefinedFrom d (name.length + 1) rest
        if (d.get? token).isNone then token :: more else more
      else undefinedFrom d 0 rest

/-- The tokens shaped like placeholders that the dictionary does not define, in the order of their
first occurrence. -/
def unresolved (d : Dictionary) (t : Text) : List Text := (d.undefinedFrom 0 t).eraseDups

end Dictionary

end SqlBuild
