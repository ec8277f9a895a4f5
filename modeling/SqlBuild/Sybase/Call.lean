import SqlBuild.Bulk.Row
import SqlBuild.Environment.Basic
import SqlBuild.Server.ProgramCall
import SqlBuild.Server.ReturnCode
import SqlBuild.Server.TableName

/-!
# Calls and queries on Sybase

How the two clients are started, and the batches that ask for a return code or for the columns of a
table. What they are after is printed behind a mark of its own, so that it is found among everything
else a batch prints.
-/

namespace SqlBuild

/-- A server and a login on it. -/
structure Login where
  server : Text
  user : Text
  password : Text
deriving DecidableEq, Repr

def Environment.login (env : Environment) : Login := ⟨env.host, env.user, env.password⟩

namespace Sybase

/-- The arguments by which both clients log in. -/
def loginArgs (login : Login) : List Text :=
  ["-U", login.user, "-P", login.password, "-S", login.server]

/-- The client for batches, without prompts and with long lines. -/
def sessionCall (login : Login) (database : Option Text) : ProgramCall where
  program := "isql"
  args := loginArgs login ++ (["-n", "-w", "4096"] : List Text) ++ match database with
    | some name => (["-D", name] : List Text)
    | none => []

/-- The client for transfers between a table and a file of rows. -/
def transferCall (login : Login) (table direction path : Text) : ProgramCall where
  program := "bcp"
  args := ([table, direction, path, "-c", "-t", "\\t", "-r", "\\n", "-b", "1000"] : List Text) ++
    loginArgs login

/-- The mark of a return code. -/
def returnMark : Text := "__IBS_RC__"

/-- The batch that calls a procedure and prints its return code. -/
def returnCodeBatch (call : Text) : Text :=
  "declare @rc int, @txt varchar(12)\nexec @rc = " ++ ReturnCode.procedureOf call ++
    "\nselect @txt = convert(varchar(12), @rc)\nprint '" ++ returnMark ++ "%1!', @txt"

/-- The number behind the first mark of a return code. -/
def returnCodeIn? (output : Text) : Option Int :=
  ((Text.lines output).findSome? fun line => Text.after? returnMark (Text.trim line)).bind
    fun code => Text.signed? 32 (Text.trim code)

/-- The mark of a column. -/
def columnMark : Text := "__IBS_COL__"

/-- The batch that prints the columns of a table, from the catalog of its database. -/
def columnsBatch (table : Text) : Text :=
  let catalog := match TableName.database? table with
    | some database => database ++ ".."
    | none => []
  "select '" ++ columnMark ++ "' + c.name + '|' + t.name from " ++ catalog ++ "syscolumns c, " ++
    catalog ++ "systypes t where c.id = object_id('" ++ Text.doubleQuotes table ++
    "') and c.usertype = t.usertype order by c.colid"

/-- The column on a line, if it is marked as one. -/
def columnOn? (line : Text) : Option ColumnInfo := do
  let pair ← Text.after? columnMark (Text.trim line)
  let (name, type) ← Text.splitAt? "|" pair
  return ⟨Text.trim name, Text.trim type⟩

/-- The columns that were printed. -/
def columnsIn (output : Text) : List ColumnInfo := (Text.lines output).filterMap columnOn?

end Sybase

end SqlBuild
