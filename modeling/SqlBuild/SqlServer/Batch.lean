import SqlBuild.Run.Error
import SqlBuild.SqlServer.Cell
import SqlBuild.SqlServer.ColumnType
import SqlBuild.SqlServer.Error
import SqlBuild.SqlServer.Event

/-!
# Output of a batch

The reply to a batch is a stream of arrivals: events, the columns of a result set, rows. They are
put together to the pieces of the output, messages and tables, in the order in which these begin. A
row belongs to the table that began last, whatever was printed since. Messages come on a way of
their own: they are collected when they are heard, and taken over before anything else that arrives.
-/

namespace SqlBuild

namespace SqlServer

inductive Arrival
  | event (event : Event)
  | columns (columns : List Column)
  | row (cells : Cells)
deriving DecidableEq, Repr

/-- What arrives for a batch, and the error it ends with, if any. -/
structure Reply where
  arrivals : List Arrival
  failure : Option LinkError := none
deriving DecidableEq, Repr

inductive Piece
  | message (text : Text)
  | table (set : ResultSet)
deriving DecidableEq, Repr

namespace Piece

def render : Piece → Text
  | message text => text
  | table set => set.render

/-- All pieces, on lines of their own. -/
def renderAll (pieces : List Piece) : Text := Text.join "\n" (pieces.map render)

/-- Adds a row to the latest table; without a table it is lost. Pieces are given latest first. -/
def addRow (row : Row) : List Piece → List Piece
  | [] => []
  | table set :: older => table { set with rows := set.rows ++ [row] } :: older
  | message text :: older => message text :: addRow row older

end Piece

/-- The output of a batch while its reply arrives. -/
structure Assembly where
  /-- The messages heard and not taken over yet, in order. -/
  heard : List Text := []
  /-- The pieces so far, latest first. -/
  pieces : List Piece := []
deriving DecidableEq, Repr

namespace Assembly

/-- Takes over the messages heard. -/
def drain (a : Assembly) : Assembly := { pieces := (a.heard.map .message).reverse ++ a.pieces }

/-- One more arrival. -/
def add (a : Assembly) : Arrival → Assembly
  | .event event => { a with heard := a.heard ++ event.shown?.toList }
  | .columns columns =>
    { pieces := .table { headers := columns.map Column.header } :: a.drain.pieces }
  | .row cells => { pieces := Piece.addRow cells.row a.drain.pieces }

end Assembly

/-- The pieces of what arrived, in order. -/
def Piece.ofArrivals (arrivals : List Arrival) : List Piece :=
  (arrivals.foldl Assembly.add {}).drain.pieces.reverse

namespace Reply

/-- The cells of all rows, whatever result set they belong to. -/
def rows (reply : Reply) : List Cells :=
  reply.arrivals.filterMap fun
    | .row cells => some cells
    | _ => none

/-- The result of a batch. -/
def result (reply : Reply) : BatchResult :=
  let output := Piece.renderAll (Piece.ofArrivals reply.arrivals)
  match reply.failure with
  | none => .ok output
  | some e => .error ⟨e.report, output⟩

/-- The rows of a query that did not fail. -/
def queried (reply : Reply) : Except ExecError (List Cells) :=
  match reply.failure with
  | none => .ok reply.rows
  | some e => .error (.server e.report)

end Reply

end SqlServer

end SqlBuild
