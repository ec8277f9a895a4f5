import SqlBuild.SqlServer.Batch

/-!
# Tokens

A reply comes as tokens. An error does not end it: everything behind an error arrives as well, and
the first error of the reply is its failure. A change of the session is no arrival; a kind of change
that is not known ends the reply at once, whatever errors came before.
-/

namespace SqlBuild

namespace SqlServer

inductive Token
  | columns (columns : List Column)
  | row (cells : Cells)
  | info (text : Text)
  | error (rejection : Rejection)
  | change (kind : Nat)
  /-- The end of a statement. -/
  | done
deriving DecidableEq, Repr

namespace Token

/-- Whether a kind of change has a meaning. -/
def isKnownChange (kind : Nat) : Bool := 1 ≤ kind && kind ≤ 20 && kind != 14

/-- The error of a change without a meaning. -/
def unknownChange (kind : Nat) : LinkError :=
  .protocol ("invalid envchange type " ++ Text.hex kind)

/-- The arrivals of tokens, and the failure at their end, when `first` is the first error before
them. -/
def replyFrom (first : Option LinkError) : List Token → Reply
  | [] => ⟨[], first⟩
  | columns cs :: rest =>
    let reply := replyFrom first rest
    ⟨.columns cs :: reply.arrivals, reply.failure⟩
  | row cells :: rest =>
    let reply := replyFrom first rest
    ⟨.row cells :: reply.arrivals, reply.failure⟩
  | info text :: rest =>
    let reply := replyFrom first rest
    ⟨.event (.printed text) :: reply.arrivals, reply.failure⟩
  | error rejection :: rest => replyFrom (first <|> some (.rejected rejection)) rest
  | change kind :: rest =>
    if isKnownChange kind then replyFrom first rest else ⟨[], some (unknownChange kind)⟩
  | done :: rest => replyFrom first rest

/-- The reply that tokens make. -/
def reply (tokens : List Token) : Reply := replyFrom none tokens

end Token

end SqlServer

end SqlBuild
