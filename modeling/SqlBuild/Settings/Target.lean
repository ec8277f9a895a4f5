import SqlBuild.Environment.UserPath
import SqlBuild.Noted
import SqlBuild.Settings.Profile

/-!
# The target of a command

A command names a profile of the settings file. When there is none of that name, or none is named,
the older environment variables give the target, and the name is that of the server; they need at
least the source root. The user, the password and the platform may be given on the command line and
win over both.
-/

namespace SqlBuild

/-- Why a command has no target. -/
inductive TargetError
  | unreadable (path : Text) (cause : IoError)
  | malformed (path : Text)
  | notFound (name : Text)
  | noProfile
  | badSource (profile template unset : Text)
deriving DecidableEq, Repr

def TargetError.message : TargetError → Text
  | unreadable path cause => "Failed to read settings file '" ++ path ++ "': " ++ cause.message
  | malformed path => "Failed to parse settings file '" ++ path ++ "'"
  | notFound name =>
    "No profile named '" ++ name ++ "' and no IR variable for the legacy fallback."
  | noProfile => "No profile given and no IR variable for the legacy fallback."
  | badSource profile template unset =>
    "Invalid sql_source for profile '" ++ profile ++ "': " ++ UserPath.unset template unset

/-- What the command line says about the target. -/
structure Overrides where
  user : Option Text := none
  password : Option Text := none
  platform : Option Platform := none
deriving DecidableEq, Repr

def Overrides.apply (o : Overrides) (env : Environment) : Environment :=
  { env with
    user := o.user.getD env.user
    password := o.password.getD env.password
    platform := o.platform.getD env.platform }

/-- Where the settings are kept. -/
structure SettingsFile where
  path : Text
deriving DecidableEq, Repr

/-- The settings; a file that is missing has none. -/
def SettingsFile.read (file : SettingsFile) (tree : FileTree) : Except TargetError Settings :=
  if tree.contains file.path then
    match tree.readText file.path with
    | .error cause => .error (.unreadable file.path cause)
    | .ok content =>
      match Settings.ofText? content with
      | some settings => .ok settings
      | none => .error (.malformed file.path)
  else .ok {}

/-- The environment of a profile; `userVariables` gives those its source root names. -/
def Profile.environment (userVariables : Text → Option Text) (name : Text) (profile : Profile) :
    Except TargetError Environment :=
  match UserPath.expand userVariables profile.source with
  | .error unset => .error (.badSource name profile.source unset)
  | .ok root => .ok
    { name, host := profile.host, port := profile.port, user := profile.user
      password := profile.password, platform := profile.platform, company := profile.company
      language := profile.language, root, rawMode := profile.rawMode, named := true }

namespace Target

/-- The platform in the variable `PLATFORM`; what is none counts as Sybase, with a warning. -/
def platformOf (value : Option Text) : Noted Platform :=
  match value.map Platform.ofName? with
  | none => pure .sybase
  | some (.ok platform) => pure platform
  | some (.error asked) => ⟨.sybase, [Platform.unknown asked ++ " Using SYBASE."]⟩

/-- The environment the older variables give; `name` is the name that was asked for. -/
def ofVariables (lookup : Text → Option Text) (name : Option Text) :
    Noted (Except TargetError Environment) :=
  match (lookup "IR").filter (!Text.isAllBlank ·) with
  | none =>
    pure (.error (match name with
      | some name => .notFound name
      | none => .noProfile))
  | some root => do
    let server := (name <|> lookup "DSQUERY").getD []
    let platform ← platformOf (lookup "PLATFORM")
    return .ok
      { name := server, host := server, port := none, user := "sa", password := [], platform
        company := (lookup "CMPY").getD "101", language := (lookup "IBSLANG").getD "1"
        root, rawMode := false, named := false }

/-- The profile with the name that was asked for, if any. -/
def profile? (tree : FileTree) (file : SettingsFile) (name : Option Text) :
    Except TargetError (Option (Text × Profile)) :=
  match name with
  | none => .ok none
  | some name => (file.read tree).map (·.find? name)

/-- The environment of a command. -/
def resolve (tree : FileTree) (file : SettingsFile) (name : Option Text) (overrides : Overrides)
    (userVariables lookup : Text → Option Text) : Noted (Except TargetError Environment) := do
  let found ← match profile? tree file name with
    | .error e => pure (Except.error e)
    | .ok (some (name, profile)) => pure (profile.environment userVariables name)
    | .ok none => ofVariables lookup name
  return found.map overrides.apply

end Target

end SqlBuild
