import SqlBuild.Text.Basic

/-!
# Historical flags

Flags as the commands used to spell them, and what the grammar of today has for them: `-MSSQL` and
`-SYBASE`, `--changelog:y`, and a number attached to `-F` or `-L`.
-/

namespace SqlBuild

namespace Legacy

/-- Dashes and then digits only. -/
def isNumber (value : Text) : Bool :=
  !value.isEmpty && (value.dropWhile (· == '-')).all Char.isDigit

/-- The words that stand for one word today. -/
def modernize (word : Text) : List Text :=
  let upper := Text.upper word
  if upper = "-MSSQL" ∨ upper = "-SYBASE" then ["--platform", upper.drop 1]
  else
    match Text.after? "--changelog:" word with
    | some value => ["--changelog", value]
    | none =>
      match word with
      | '-' :: 'F' :: value => if isNumber value then ["-F", value] else [word]
      | '-' :: 'L' :: value => if isNumber value then ["-L", value] else [word]
      | _ => [word]

/-- A command line with the flags of today in place of the historical ones. -/
def normalize (words : List Text) : List Text := words.flatMap modernize

end Legacy

end SqlBuild
