import SqlBuild.Text.Basic

/-!
# The source root marker

A reference to a source file may start with `$ir`, in any case, which stands for the source root.
Its parts are separated by `>`, `/` or a backslash: `$ir>css>a.sql` is `css/a.sql` below the root.
-/

namespace SqlBuild

namespace Reference

/-- What separates the parts of a reference that starts with the marker. -/
def isSeparator (c : Char) : Bool := c == '>' || c == '/' || c == '\\'

/-- Without slashes of either kind at the end. -/
def dropSlashes (root : Text) : Text := Text.dropEndWhile (fun c => c == '/' || c == '\\') root

/-- A leading marker replaced by the source root; a reference without one stays as it is. -/
def expandMarker (root reference : Text) : Text :=
  match Text.afterIgnoringCase? "$ir" reference with
  | none => reference
  | some rest =>
    if rest = [] ∨ rest.head?.any isSeparator then
      let parts := (rest.splitOnP isSeparator).filter (· ≠ [])
      if parts = [] then dropSlashes root else dropSlashes root ++ "/" ++ Text.join "/" parts
    else reference

end Reference

end SqlBuild
