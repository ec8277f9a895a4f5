import SqlBuild.SqlServer.Server
import SqlBuild.SqlServer.Token

/-!
# A connection that follows a script

A stand-in for SQL Server. Every connection has the tokens that answer the login and those that
answer one batch after the other; what is left without tokens has an empty answer. The connections
keep what they were sent.
-/

namespace SqlBuild

namespace Rehearsal

open SqlServer

structure LinkScript where
  login : List Token := []
  replies : List (List Token) := []
deriving DecidableEq, Repr

structure Connection where
  account : Account
  database : Option Text
  /-- The replies that are left. -/
  replies : List (List Token)
  /-- What was sent, latest first. -/
  batches : List Text := []
deriving DecidableEq, Repr

/-- The scripts of the connections to come, and the connections there have been, latest first. -/
structure Connections where
  scripts : List LinkScript
  opened : List Connection := []
deriving DecidableEq, Repr

namespace Connections

def link : Link Connections where
  connect account database all :=
    let script := all.scripts.head?.getD {}
    let all := ⟨all.scripts.tail, { account, database, replies := script.replies } :: all.opened⟩
    match (Token.reply script.login).failure with
    | none => (.ok (), all)
    | some e => (.error e, all)
  query sql all :=
    match all.opened with
    | [] => (⟨[], none⟩, all)
    | connection :: older =>
      let connection' :=
        { connection with replies := connection.replies.tail, batches := sql :: connection.batches }
      (Token.reply (connection.replies.head?.getD []), ⟨all.scripts, connection' :: older⟩)
  close all := (.ok (), all)

end Connections

end Rehearsal

end SqlBuild
