import SqlBuild.Environment.Basic
import SqlBuild.Toml.Reader

/-!
# Profiles

A profile is one table below `profiles` in the settings: a server, a login and the SQL sources that
belong to it. The host, the company and the source root have to be given; a key that is none of a
profile's is refused. Everything else in the settings is passed over.
-/

namespace SqlBuild

structure Profile where
  host : Text
  port : Option UInt16 := none
  user : Text := []
  password : Text := []
  platform : Platform := .sybase
  company : Text
  language : Text := "1"
  /-- The source root as written, variables not yet replaced. -/
  source : Text
  rawMode : Bool := false
  aliases : List Text := []
deriving DecidableEq, Repr

namespace Profile

def textOf? : Toml → Option Text
  | .text content => some content
  | _ => none

def booleanOf? : Toml → Option Bool
  | .boolean b => some b
  | _ => none

def portOf? : Toml → Option UInt16
  | .integer n => if 0 ≤ n ∧ n < UInt16.size then some (UInt16.ofNat n.toNat) else none
  | _ => none

def aliasesOf? : Toml → Option (List Text)
  | .array _ items => items.mapM textOf?
  | _ => none

/-- A platform by its exact name. -/
def platformNamed? (name : Text) : Option Platform :=
  if name = "SYBASE" then some .sybase else if name = "MSSQL" then some .mssql else none

/-- A platform is a name, or a table with that name as its only key and nothing under it. -/
def platformOf? : Toml → Option Platform
  | .text name => platformNamed? name
  | .table _ [(name, .table _ [])] | .table _ [(name, .array _ [])] => platformNamed? name
  | _ => none

/-- The keys of a profile. -/
def keys : List Text :=
  ["host", "port", "user", "password", "platform", "company", "language", "sql_source", "raw_mode",
    "aliases"]

/-- The value under a key as `read` reads it; `fallback` stands for a missing one. -/
def field {α : Type} (entries : Toml.Entries) (key : Text) (read : Toml → Option α)
    (fallback : Option α) : Option α :=
  match entries.lookup key with
  | some value => read value
  | none => fallback

/-- The profile with these entries. -/
def ofEntries? (entries : Toml.Entries) : Option Profile :=
  if entries.all fun e => keys.contains e.1 then do
    return {
      host := ← field entries "host" textOf? none
      port := ← field entries "port" (fun v => (portOf? v).map some) (some none)
      user := ← field entries "user" textOf? (some [])
      password := ← field entries "password" textOf? (some [])
      platform := ← field entries "platform" platformOf? (some .sybase)
      company := ← field entries "company" textOf? none
      language := ← field entries "language" textOf? (some "1".toList)
      source := ← field entries "sql_source" textOf? none
      rawMode := ← field entries "raw_mode" booleanOf? (some false)
      aliases := ← field entries "aliases" aliasesOf? (some []) }
  else none

/-- A profile is a table, or the values of its keys in their order, of which the last two may be
missing and any further ones are passed over. -/
def ofToml? : Toml → Option Profile
  | .table _ entries => ofEntries? entries
  | .array _ items => if 8 ≤ items.length then ofEntries? (keys.zip items) else none
  | _ => none

/-- Whether a profile has one of its other names, in any case. -/
def hasAlias (profile : Profile) (name : Text) : Bool :=
  profile.aliases.any fun other => Text.sameIgnoringCase other name

end Profile

/-- The profiles of a settings file by name, in the order in which they are looked through. -/
structure Settings where
  profiles : List (Text × Profile) := []
deriving DecidableEq, Repr

namespace Settings

/-- The profiles below `profiles`, which may be missing. -/
def ofEntries? (entries : Toml.Entries) : Option Settings :=
  match entries.lookup "profiles".toList with
  | none => some {}
  | some (.table _ profiles) =>
    (profiles.mapM fun e => (Profile.ofToml? e.2).map fun profile => (e.1, profile)).map
      Settings.mk
  | some _ => none

def ofText? (t : Text) : Option Settings := (Toml.ofText? t).bind ofEntries?

/-- The profile with a name in any case; failing that, the first that has it as another name. -/
def find? (settings : Settings) (name : Text) : Option (Text × Profile) :=
  settings.profiles.find? (fun p => Text.sameIgnoringCase p.1 name) <|>
    settings.profiles.find? fun p => p.2.hasAlias name

end Settings

end SqlBuild
