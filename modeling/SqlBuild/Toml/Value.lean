import SqlBuild.Text.Digit

/-!
# Values of a TOML document

A document is a table. Floats, dates and times are kept as they are written, since nothing here
computes with them. What may still be added to a table or an array is decided by how it came to be:
a table can be named by other headers before it gets its own, dotted keys may only add to tables
that dotted keys have made, and what stands between braces or brackets is complete.
-/

namespace SqlBuild

/-- How a table came to be. -/
inductive Origin
  /-- Named on the way to another table. -/
  | implied
  /-- Made by a dotted key. -/
  | dotted
  /-- Given a header of its own. -/
  | header
  /-- Written between braces. -/
  | braces
deriving DecidableEq, Repr

inductive Toml
  | text (content : Text)
  | integer (value : Int)
  | boolean (value : Bool)
  /-- A float, a date or a time, as written. -/
  | written (form : Text)
  /-- An array; a `growing` one has tables as its items and takes more of them by headers. -/
  | array (growing : Bool) (items : List Toml)
  | table (origin : Origin) (entries : List (Text × Toml))

namespace Toml

/-- The keys of a table with their values, in the order of the document. -/
abbrev Entries := List (Text × Toml)

/-- How a table is entered in order to add to it. -/
inductive Entrance
  /-- On the way to the table of a header. -/
  | header
  /-- On the way to the table a dotted key adds to. -/
  | passing
  /-- As the table a dotted key adds to. -/
  | dotted
deriving DecidableEq, Repr

/-- Whether a table may be entered. -/
def Entrance.allows : Entrance → Origin → Bool
  | header, origin => origin != .braces
  | passing, origin => origin == .implied || origin == .dotted
  | dotted, origin => origin == .dotted

/-- The origin of a table that does not exist until it is entered. -/
def Entrance.makes : Entrance → Origin
  | header => .implied
  | passing | dotted => .dotted

/-- Changes the entries of a table, or of the last table in a growing array. -/
def inside (entrance : Entrance) (change : Entries → Option Entries) : Toml → Option Toml
  | table origin entries =>
    if entrance.allows origin then (change entries).map (table origin ·) else none
  | array true items =>
    match entrance, items.getLast? with
    | .dotted, _ => none
    | _, some (table origin entries) =>
      (change entries).map fun entries => array true (items.dropLast ++ [table origin entries])
    | _, _ => none
  | _ => none

/-- Changes the entries of the table under a key, which is made when it is missing. -/
def under (entrance : Entrance) (key : Text) (change : Entries → Option Entries) :
    Entries → Option Entries
  | [] => (change []).map fun entries => [(key, table entrance.makes entries)]
  | (k, value) :: rest =>
    if k = key then (value.inside entrance change).map fun value => (k, value) :: rest
    else (under entrance key change rest).map ((k, value) :: ·)

/-- Adds a value under a key that is not there yet. -/
def add (key : Text) (value : Toml) (entries : Entries) : Option Entries :=
  if (entries.lookup key).isSome then none else some (entries ++ [(key, value)])

/-- Adds a value under a dotted key. -/
def assign (value : Toml) : List Text → Entries → Option Entries
  | [], _ => none
  | [key], entries => add key value entries
  | [parent, key], entries => under .dotted parent (add key value) entries
  | parent :: path, entries => under .passing parent (assign value path) entries

/-- Opens the table of a header: a new one, or one that was only named so far. -/
def openTable : List Text → Entries → Option Entries
  | [], _ => none
  | [key], entries => openHere key entries
  | parent :: path, entries => under .header parent (openTable path) entries
where
  /-- The last key of a header. -/
  openHere (key : Text) : Entries → Option Entries
    | [] => some [(key, table .header [])]
    | (k, value) :: rest =>
      if k = key then
        match value with
        | table .implied entries => some ((k, table .header entries) :: rest)
        | _ => none
      else (openHere key rest).map ((k, value) :: ·)

/-- Opens a new table at the end of a growing array. -/
def openItem : List Text → Entries → Option Entries
  | [], _ => none
  | [key], entries => openHere key entries
  | parent :: path, entries => under .header parent (openItem path) entries
where
  /-- The last key of a header. -/
  openHere (key : Text) : Entries → Option Entries
    | [] => some [(key, array true [table .header []])]
    | (k, value) :: rest =>
      if k = key then
        match value with
        | array true items => some ((k, array true (items ++ [table .header []])) :: rest)
        | _ => none
      else (openHere key rest).map ((k, value) :: ·)

/-- Adds a value under a dotted key of the table with this header. -/
def assignIn (value : Toml) (key : List Text) : List Text → Entries → Option Entries
  | [], entries => assign value key entries
  | parent :: path, entries => under .header parent (assignIn value key path) entries

end Toml

end SqlBuild
