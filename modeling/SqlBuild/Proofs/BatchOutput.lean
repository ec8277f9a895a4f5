import Mathlib.Data.List.Basic
import SqlBuild.Proofs.RenderedTables
import SqlBuild.SqlServer.Batch

/-!
# The output of a batch

Whatever arrives is put behind the messages heard before it, so the pieces stand in the order in
which they begin, and a table has the rows up to the next header (`SqlServer.Piece.ofArrivals_eq`).
Cutting the arrivals anywhere cuts the pieces (`SqlServer.begun_append`). The output has a share for
each piece, which is the message or the rows of the table. So nothing that arrives is lost, moved or
doubled, also when the reply ends in an error (`SqlServer.Reply.result_assembled`).
-/

namespace SqlBuild

namespace SqlServer

namespace Arrival

/-- The message that is shown of an arrival. -/
@[simp]
def text? : Arrival → Option Text
  | event e => e.shown?
  | _ => none

/-- The headers of the table that begins with an arrival. -/
@[simp]
def headers? : Arrival → Option (List Header)
  | columns cs => some (cs.map Column.header)
  | _ => none

@[simp]
def row? : Arrival → Option Row
  | row cells => some cells.row
  | _ => none

end Arrival

namespace Piece

@[simp]
def text? : Piece → Option Text
  | message text => some text
  | table _ => none

@[simp]
def table? : Piece → Option ResultSet
  | message _ => none
  | table set => some set

/-- How a piece stands in a text: a message as it is, a table with all its rows. -/
def Stands : Piece → Text → Prop
  | message text, shown => shown = text
  | table set, shown => set.Tabulates shown

theorem stands_render : ∀ piece : Piece, piece.Stands piece.render
  | message _ => rfl
  | table set => set.tabulates_render

end Piece

/-- The rows that arrive before the next header. -/
def rowsAhead : List Arrival → List Row
  | [] => []
  | .event _ :: rest => rowsAhead rest
  | .columns _ :: _ => []
  | .row cells :: rest => cells.row :: rowsAhead rest

/-- The pieces that begin with these arrivals, each in its place. -/
def begun : List Arrival → List Piece
  | [] => []
  | .event event :: rest => (event.shown?.map Piece.message).toList ++ begun rest
  | .columns columns :: rest =>
    .table ⟨columns.map Column.header, rowsAhead rest⟩ :: begun rest
  | .row _ :: rest => begun rest

/-- The pieces have the messages and the headers of these arrivals, all of them and in order. -/
def BeginAlike (arrivals : List Arrival) (pieces : List Piece) : Prop :=
  pieces.filterMap Piece.text? = arrivals.filterMap Arrival.text? ∧
    (pieces.filterMap Piece.table?).map ResultSet.headers = arrivals.filterMap Arrival.headers?

/-! ### From arrivals to pieces -/

/-- Rows for the latest table, one after the other. -/
def addRows (rows : List Row) (pieces : List Piece) : List Piece :=
  rows.foldl (fun pieces row => Piece.addRow row pieces) pieces

theorem addRows_nil : ∀ rows : List Row, addRows rows [] = []
  | [] => rfl
  | _ :: rows => addRows_nil rows

theorem addRows_messages (rows : List Row) (texts : List Text) (older : List Piece) :
    addRows rows (texts.map .message ++ older) = texts.map .message ++ addRows rows older := by
  have hrow : ∀ (row : Row) (older : List Piece),
      Piece.addRow row (texts.map .message ++ older) =
        texts.map .message ++ Piece.addRow row older := by
    intro row older
    induction texts with
    | nil => rfl
    | cons text texts ih => simp [Piece.addRow, ih]
  induction rows generalizing older with
  | nil => rfl
  | cons row rows ih =>
    show addRows rows (Piece.addRow row (texts.map .message ++ older)) = _
    rw [hrow, ih]
    rfl

theorem addRows_table (rows : List Row) (set : ResultSet) (older : List Piece) :
    addRows rows (.table set :: older) =
      .table { set with rows := set.rows ++ rows } :: older := by
  induction rows generalizing set with
  | nil => simp [addRows]
  | cons row rows ih =>
    show addRows rows (.table { set with rows := set.rows ++ [row] } :: older) = _
    rw [ih]
    simp

/-- What is put together from there on: the rows still belong to the latest table, and the pieces
that begin come behind all others. -/
theorem foldl_add (arrivals : List Arrival) (a : Assembly) :
    (arrivals.foldl Assembly.add a).drain.pieces =
      (begun arrivals).reverse ++ addRows (rowsAhead arrivals) a.drain.pieces := by
  -- A step is told by the drained pieces, in which the messages held stand in their places already.
  induction arrivals generalizing a with
  | nil => rfl
  | cons arrival rest ih =>
    rw [List.foldl_cons, ih]
    cases arrival with
    | event event =>
      have hheard : (a.add (.event event)).drain.pieces =
          event.shown?.toList.map .message ++ a.drain.pieces := by
        cases hshown : event.shown? <;> simp [Assembly.add, Assembly.drain, hshown]
      rw [hheard, addRows_messages]
      cases hshown : event.shown? <;> simp [begun, rowsAhead, hshown]
    | columns columns =>
      have hbegins : (a.add (.columns columns)).drain.pieces =
          .table { headers := columns.map Column.header } :: a.drain.pieces := by
        simp [Assembly.add, Assembly.drain]
      rw [hbegins, addRows_table]
      simp [begun, rowsAhead, addRows]
    | row cells =>
      have hadded : (a.add (.row cells)).drain.pieces =
          Piece.addRow cells.row a.drain.pieces := by
        simp [Assembly.add, Assembly.drain]
      rw [hadded]
      rfl

theorem Piece.ofArrivals_eq (arrivals : List Arrival) : ofArrivals arrivals = begun arrivals := by
  rw [ofArrivals, foldl_add]
  simp [Assembly.drain, addRows_nil]

/-! ### Cuts -/

theorem begun_append (before after : List Arrival) :
    ∃ earlier, begun (before ++ after) = earlier ++ begun after ∧ BeginAlike before earlier := by
  induction before with
  | nil => exact ⟨[], rfl, rfl, rfl⟩
  | cons arrival before ih =>
    obtain ⟨earlier, hbegun, htexts, hheaders⟩ := ih
    cases arrival with
    | event event =>
      refine ⟨(event.shown?.map Piece.message).toList ++ earlier, by simp [begun, hbegun], ?_⟩
      cases hshown : event.shown? <;>
        simp [BeginAlike, List.filterMap_cons, hshown, htexts, hheaders]
    | columns columns =>
      refine ⟨.table ⟨columns.map Column.header, rowsAhead (before ++ after)⟩ :: earlier,
        by simp [begun, hbegun], ?_⟩
      simp [BeginAlike, List.filterMap_cons, htexts, hheaders]
    | row cells =>
      refine ⟨earlier, by simp [begun, hbegun], ?_⟩
      simp [BeginAlike, List.filterMap_cons, htexts, hheaders]

theorem beginAlike_begun (arrivals : List Arrival) : BeginAlike arrivals (begun arrivals) := by
  obtain ⟨earlier, hbegun, halike⟩ := begun_append arrivals []
  rw [List.append_nil, begun, List.append_nil] at hbegun
  rwa [hbegun]

theorem rowsAhead_append {inside : List Arrival} (h : ∀ a ∈ inside, a.headers? = none)
    {after : List Arrival} (hafter : ∀ a ∈ after.head?, a.headers?.isSome) :
    rowsAhead (inside ++ after) = inside.filterMap Arrival.row? := by
  induction inside with
  | nil =>
    -- Nothing follows, or a header does.
    rcases after with _ | ⟨_ | _ | _, after⟩
    · rfl
    · cases hafter _ rfl
    · rfl
    · cases hafter _ rfl
  | cons arrival inside ih =>
    obtain ⟨harrival, hinside⟩ := List.forall_mem_cons.1 h
    cases arrival with
    | event event => simpa [rowsAhead, List.filterMap_cons] using ih hinside
    | columns columns => cases harrival
    | row cells => simpa [rowsAhead, List.filterMap_cons] using ih hinside

/-- No row arrives before the first header. -/
def FollowHeaders (arrivals : List Arrival) : Prop :=
  ∀ before cells after, arrivals = before ++ .row cells :: after →
    ∃ columns, .columns columns ∈ before

theorem FollowHeaders.rowsAhead_eq_nil {arrivals : List Arrival} (h : FollowHeaders arrivals) :
    rowsAhead arrivals = [] := by
  induction arrivals with
  | nil => rfl
  | cons arrival rest ih =>
    cases arrival with
    | event event =>
      refine ih fun before cells after hrest => ?_
      obtain ⟨columns, hcolumns⟩ := h (.event event :: before) cells after (by simp [hrest])
      exact ⟨columns, by simpa using hcolumns⟩
    | columns columns => rfl
    | row cells =>
      obtain ⟨columns, hcolumns⟩ := h [] cells rest rfl
      simp at hcolumns

/-- Every row that arrives belongs to the latest table, or else to the one before. -/
theorem rows_begun (arrivals : List Arrival) :
    rowsAhead arrivals ++ ((begun arrivals).filterMap Piece.table?).flatMap ResultSet.rows =
      arrivals.filterMap Arrival.row? := by
  induction arrivals with
  | nil => rfl
  | cons arrival rest ih =>
    cases arrival with
    | event event =>
      cases hshown : event.shown? <;>
        simpa [rowsAhead, begun, List.filterMap_cons, hshown] using ih
    | columns columns => simpa [rowsAhead, begun, List.filterMap_cons] using ih
    | row cells => simpa [rowsAhead, begun, List.filterMap_cons] using ih

/-- The output of a batch is made of a share for each of its pieces, each on lines of its own, also
when the reply ends in an error. Every message that arrives is one of the pieces and stands in the
output as it is, behind all that began before it and in front of all that began after it. So is a
table for every header, which stands there with the rows that arrive before the next header. No row
is lost when none arrives before the first header. -/
theorem Reply.result_assembled {reply : Reply} (h : FollowHeaders reply.arrivals) :
    ∃ (pieces : List Piece) (shares : List Text),
      List.Forall₂ Piece.Stands pieces shares ∧
      (reply.failure = none → reply.result = .ok (Text.join "\n" shares)) ∧
      (∀ e, reply.failure = some e →
        reply.result = .error ⟨e.report, Text.join "\n" shares⟩) ∧
      BeginAlike reply.arrivals pieces ∧
      (∀ before event after text, reply.arrivals = before ++ .event event :: after →
        event.shown? = some text → ∃ earlier later, pieces = earlier ++ .message text :: later ∧
          BeginAlike before earlier ∧ BeginAlike after later) ∧
      (∀ before columns inside after,
        reply.arrivals = before ++ .columns columns :: (inside ++ after) →
        (∀ a ∈ inside, a.headers? = none) → (∀ a ∈ after.head?, a.headers?.isSome) →
        ∃ earlier later, pieces = earlier ++
            .table ⟨columns.map Column.header, inside.filterMap Arrival.row?⟩ :: later ∧
          BeginAlike before earlier ∧ BeginAlike (inside ++ after) later) ∧
      (pieces.filterMap Piece.table?).flatMap ResultSet.rows =
        reply.arrivals.filterMap Arrival.row? := by
  refine ⟨begun reply.arrivals, (begun reply.arrivals).map Piece.render, ?_, ?_, ?_,
    beginAlike_begun _, ?_, ?_, ?_⟩
  · rw [List.forall₂_map_right_iff, List.forall₂_same]
    exact fun piece _ => piece.stands_render
  · intro hfailure
    rw [result, hfailure, Piece.ofArrivals_eq]
    rfl
  · intro e hfailure
    rw [result, hfailure, Piece.ofArrivals_eq]
    rfl
  · intro before event after text harrivals hshown
    obtain ⟨earlier, hbegun, halike⟩ := begun_append before (.event event :: after)
    refine ⟨earlier, begun after, ?_, halike, beginAlike_begun after⟩
    rw [harrivals, hbegun, begun, hshown]
    rfl
  · intro before columns inside after harrivals hinside hafter
    obtain ⟨earlier, hbegun, halike⟩ := begun_append before (.columns columns :: (inside ++ after))
    refine ⟨earlier, begun (inside ++ after), ?_, halike, beginAlike_begun _⟩
    rw [harrivals, hbegun, begun, rowsAhead_append hinside hafter]
  · rw [← rows_begun, h.rowsAhead_eq_nil, List.nil_append]

theorem FollowHeaders.event {rest : List Arrival} (h : FollowHeaders rest) (event : Event) :
    FollowHeaders (.event event :: rest) := by
  rintro (_ | ⟨arrival, before⟩) cells after harrivals
  · cases harrivals
  · obtain ⟨rfl, hrest⟩ := List.cons.inj harrivals
    obtain ⟨columns, hcolumns⟩ := h before cells after hrest
    exact ⟨columns, List.mem_cons_of_mem _ hcolumns⟩

theorem followHeaders_columns (columns : List Column) (rest : List Arrival) :
    FollowHeaders (.columns columns :: rest) := by
  rintro (_ | ⟨arrival, before⟩) cells after harrivals
  · cases harrivals
  · obtain ⟨rfl, -⟩ := List.cons.inj harrivals
    exact ⟨columns, List.mem_cons_self⟩

/-- Messages before, between and after the rows of two tables, and an error in the end. -/
def interleaved : Reply where
  arrivals := [.event (.printed "before"), .columns [⟨"n", .int4⟩], .row [some (.integer 1)],
    .event (.printed "between"), .row [none], .columns [⟨"m", .int4⟩], .event (.printed "after")]
  failure := some .utf8

/-- The output of the reply. -/
def interleavedText : Text := Text.join "\n" (["before",
  "         n", "----------", "         1", "", "", "(2 rows affected)", "", "between",
  "         m", "----------", "", "(0 rows affected)", "", "after"].map String.toList)

theorem Reply.result_assembled_interleaved : FollowHeaders interleaved.arrivals ∧
    interleaved.result = .error ⟨"UTF-8 error", interleavedText⟩ ∧
    ∃ (pieces : List Piece) (shares : List Text),
      List.Forall₂ Piece.Stands pieces shares ∧ interleavedText = Text.join "\n" shares ∧
      pieces.filterMap Piece.text? = ["before", "between", "after"] ∧
      (∃ earlier later, pieces = earlier ++ .table ⟨[⟨"n", true⟩], [["1"], [""]]⟩ :: later) ∧
      (pieces.filterMap Piece.table?).flatMap ResultSet.rows = ([["1"], [""]] : List Row) := by
  have hfollow : FollowHeaders interleaved.arrivals := (followHeaders_columns _ _).event _
  have hresult : interleaved.result = .error ⟨"UTF-8 error", interleavedText⟩ := by decide +kernel
  obtain ⟨pieces, shares, hstand, -, hfailed, hbegin, -, htables, hrows⟩ :=
    result_assembled hfollow
  obtain ⟨earlier, later, hpieces, -, -⟩ := htables [.event (.printed "before")] [⟨"n", .int4⟩]
    [.row [some (.integer 1)], .event (.printed "between"), .row [none]]
    [.columns [⟨"m", .int4⟩], .event (.printed "after")] rfl (by decide) (by decide)
  have hshares := hresult.symm.trans (hfailed _ rfl)
  exact ⟨hfollow, hresult, pieces, shares, hstand, (BatchError.mk.inj (Except.error.inj hshares)).2,
    hbegin.1, ⟨earlier, later, hpieces⟩, hrows⟩

end SqlServer

end SqlBuild
