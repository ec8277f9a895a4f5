import SqlBuild.Text.Basic

/-!
# Platforms

The two kinds of database servers.
-/

namespace SqlBuild

inductive Platform
  | sybase
  | mssql
deriving DecidableEq, Repr

namespace Platform

/-- The name in settings, messages and cache files. -/
def name : Platform → Text
  | sybase => "SYBASE"
  | mssql => "MSSQL"

/-- A platform by one of its names, in any case and with blanks around it. What is no name is given
back trimmed and in upper case. -/
def ofName? (text : Text) : Except Text Platform :=
  let asked := Text.upper (Text.trim text)
  if asked = "SYBASE" ∨ asked = "ASE" then .ok sybase
  else if asked = "MSSQL" ∨ asked = "SQLSERVER" then .ok mssql
  else .error asked

/-- The complaint about a name that is no platform. -/
def unknown (asked : Text) : Text :=
  "Unknown platform '" ++ asked ++ "'. Expected SYBASE or MSSQL."

/-- The port a server of this platform listens on unless told otherwise. -/
def defaultPort : Platform → UInt16
  | sybase => 5000
  | mssql => 1433

end Platform

end SqlBuild
