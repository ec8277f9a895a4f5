import SqlBuild.Files.Error
import SqlBuild.Text.Digit

/-!
# Errors of a connection

What can go wrong between the program and the server: the server refuses something, or one of the
layers below fails. An error has two forms: `message`, which stands in the complaint about a
connection that could not be opened, and `report`, which stands in everything else.
-/

namespace SqlBuild

namespace SqlServer

/-- What the server says about something it refuses. -/
structure Rejection where
  code : Nat
  level : Nat
  state : Nat
  line : Nat
  reason : Text
  procedure : Text
  server : Text
deriving DecidableEq, Repr

inductive LinkError
  | rejected (rejection : Rejection)
  /-- There is no way to the server. -/
  | unreachable (cause : IoError)
  | io (reason : Text)
  | protocol (reason : Text)
  | encoding (reason : Text)
  | conversion (reason : Text)
  | utf8
  | utf16
  | tls (reason : Text)
  /-- The server sends the client to another address. -/
  | routed (host : Text) (port : Nat)
deriving DecidableEq, Repr

namespace LinkError

def message : LinkError → Text
  | rejected r =>
    "Token error: '" ++ r.reason ++ "' on server " ++ r.server ++ " executing " ++ r.procedure ++
      " on line " ++ Text.ofNat r.line ++ " (code: " ++ Text.ofNat r.code ++ ", state: " ++
      Text.ofNat r.state ++ ", class: " ++ Text.ofNat r.level ++ ")"
  | unreachable cause => cause.message
  | io reason => "An error occured during the attempt of performing I/O: " ++ reason
  | protocol reason => "Protocol error: " ++ reason
  | encoding reason => "Encoding error: " ++ reason
  | conversion reason => "Conversion error: " ++ reason
  | utf8 => "UTF-8 error"
  | utf16 => "UTF-16 error"
  | tls reason => "Error forming TLS connection: " ++ reason
  | routed host port =>
    "Server requested a connection to an alternative address: `" ++ host ++ ":" ++
      Text.ofNat port ++ "`"

/-- A rejection on two lines, the first with its numbers; any other error as its message. -/
def report : LinkError → Text
  | rejected r =>
    "Msg " ++ Text.ofNat r.code ++ ", Level " ++ Text.ofNat r.level ++ ", State " ++
      Text.ofNat r.state ++ ", Line " ++ Text.ofNat r.line ++ "\n" ++ r.reason
  | e => e.message

end LinkError

end SqlServer

end SqlBuild
