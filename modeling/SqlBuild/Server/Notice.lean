import SqlBuild.Text.Basic

/-!
# Notices of a changed context

Servers announce that the database, the language or the character set of a session has changed.
Nobody asked for that, so these lines are not shown.
-/

namespace SqlBuild

/-- How the notices start. -/
def contextNotices : List Text :=
  ["Changed database context to", "Changed language setting to", "Changed client character set"]

/-- Whether a line is a notice, blanks in front of it aside. -/
def isContextNotice (line : Text) : Bool :=
  contextNotices.any (Text.startsWith (Text.trimStart line) ·)

end SqlBuild
