import SqlBuild.Proofs.Cancellation
import SqlBuild.Proofs.WorkTables

/-!
# A compiler stops at its first failure

What a compiler does to the server is settled by its plan: it clears and fills one work table after
the other and calls the procedure in the end (`WorkStep.ofPlan`). A run takes these steps in their
order and goes no further than to the first one that fails, be it that the server refuses it or that
its rows have no data file; nothing but a set token ends it between two of them (`Follows`). So the
steps that were taken say how the run ended (`Compiler.stops_at_first_failure`).
-/

namespace SqlBuild

/-- What a compiler does to the server, one thing after the other. The data file for a table may not
have been made, and one that was may not open. -/
inductive WorkStep
  | clear (table : Text)
  | fill (table : Text) (data : Except ScratchError (Except IoError DataFile))
  | call (procedure : Text)

namespace WorkStep

/-- The data file of rows. -/
def supply (ctx : Context) (rows : List Row) : Except ScratchError (Except IoError DataFile) :=
  (ctx.scratch .rows (Compiler.dataText rows)).map fun (name, files) => DataFile.find files name

/-- The steps for one work table. -/
def ofLoad (ctx : Context) (load : WorkTable) : List WorkStep :=
  [clear (ctx.resolveWord load.table), fill (ctx.resolveWord load.table) (supply ctx load.rows)]

/-- The steps of a plan. -/
def ofPlan (ctx : Context) (plan : CompilePlan) : List WorkStep :=
  plan.loads.flatMap (ofLoad ctx) ++ [call (ctx.resolveWord plan.procedure)]

/-- A step that is done: the server takes it, and a data file has been read to its end. -/
inductive Taken : WorkStep → List Event → Prop
  | clear (table text : Text) : Taken (.clear table) [⟨.batch ("delete from " ++ table), .ok text⟩]
  | fill (table : Text) {file : DataFile} (hread : file.failure = none)
      {columns : List ColumnInfo} (hcolumns : columns ≠ []) (moved count : Nat) :
      Taken (.fill table (.ok (.ok file)))
        [⟨.columns table, .ok columns⟩,
          ⟨.load table columns (file.stream columns), ⟨moved, .ok count⟩⟩]
  | call (procedure text : Text) :
      Taken (.call procedure) [⟨.batch ("exec " ++ procedure), .ok text⟩]

/-- A step that fails, what the server was asked for it, and the error this comes to. Either the
server refuses it, or its data file has not been made, does not open or cannot be read. -/
inductive Failed : WorkStep → List Event → ExecError → Prop
  | clear (table : Text) (e : BatchError) :
      Failed (.clear table) [⟨.batch ("delete from " ++ table), .error e⟩] (.server e.fullText)
  | unmade (table : Text) (cause : ScratchError) :
      Failed (.fill table (.error cause)) [] (.io cause.cause)
  | columns (table : Text) (data : Except IoError DataFile) (e : ExecError) :
      Failed (.fill table (.ok data)) [⟨.columns table, .error e⟩] e
  | unknown (table : Text) (data : Except IoError DataFile) :
      Failed (.fill table (.ok data)) [⟨.columns table, .ok []⟩] (.server (Bulk.noColumns table))
  | unopened (table : Text) (cause : IoError) {columns : List ColumnInfo}
      (hcolumns : columns ≠ []) :
      Failed (.fill table (.ok (.error cause))) [⟨.columns table, .ok columns⟩] (.io cause)
  | fill (table : Text) (file : DataFile) {columns : List ColumnInfo} (hcolumns : columns ≠ [])
      (moved : Nat) (e : ExecError) : Failed (.fill table (.ok (.ok file)))
        [⟨.columns table, .ok columns⟩,
          ⟨.load table columns (file.stream columns), ⟨moved, .error e⟩⟩] e
  | unread (table : Text) {file : DataFile} {cause : IoError} (hread : file.failure = some cause)
      {columns : List ColumnInfo} (hcolumns : columns ≠ []) (moved count : Nat) :
      Failed (.fill table (.ok (.ok file)))
        [⟨.columns table, .ok columns⟩,
          ⟨.load table columns (file.stream columns), ⟨moved, .ok count⟩⟩] (.io cause)
  | call (procedure : Text) (e : BatchError) :
      Failed (.call procedure) [⟨.batch ("exec " ++ procedure), .error e⟩] (.server e.fullText)

end WorkStep

open WorkStep

/-- How steps are followed: one that is taken is followed by the next one, one that fails is the
last. `cut` says that the run may be cancelled between two of them. -/
inductive Follows (cut : Prop) : List WorkStep → List Event → Except ExecError Unit → Prop
  | done : Follows cut [] [] (.ok ())
  | taken {step : WorkStep} {rest : List WorkStep} {first more : List Event}
      {result : Except ExecError Unit} (htaken : step.Taken first)
      (behind : Follows cut rest more result) : Follows cut (step :: rest) (first ++ more) result
  | failed {step : WorkStep} {rest : List WorkStep} {events : List Event} {e : ExecError}
      (hfailed : step.Failed events e) : Follows cut (step :: rest) events (.error e)
  | cancelled {step : WorkStep} {rest : List WorkStep} (hcut : cut) :
      Follows cut (step :: rest) [] (.error .cancelled)

theorem dealings_of_quiet {events : List Event} (h : Quiet events) : dealings events = [] := by
  refine List.filter_eq_nil_iff.2 fun e he => ?_
  simp [Action.sparesServer, h e he]

namespace WorkStep

variable {step : WorkStep} {events first more : List Event} {e : ExecError}

theorem Taken.dealings_eq (h : step.Taken events) : dealings events = events := by
  cases h <;> rfl

theorem Failed.dealings_eq (h : step.Failed events e) : dealings events = events := by
  cases h <;> rfl

/-- What happens at a step tells that it failed, except when its data file cannot be read. -/
theorem Failed.not_taken (h : step.Failed events e) (htaken : step.Taken first) :
    events ≠ first ++ more := by
  intro heq
  cases h with
  | unread table hread =>
    cases htaken with
    | fill _ hend =>
      rw [hend] at hread
      cases hread
  | _ => cases htaken <;> exact nomatch heq

theorem Taken.ne_nil (h : step.Taken first) : first ++ more ≠ [] := by
  cases h <;> simp

theorem Taken.append_inj {first' more' : List Event} (h : step.Taken first) (h' : step.Taken first')
    (heq : first ++ more = first' ++ more') : more = more' := by
  have hlength : first.length = first'.length := by cases h <;> cases h' <;> rfl
  exact (List.append_inj heq hlength).2

end WorkStep

namespace Follows

variable {cut : Prop} {steps rest : List WorkStep} {events more : List Event}
variable {result : Except ExecError Unit}

theorem mono {cut' : Prop} (h : Follows cut steps events result) (hcut : cut → cut') :
    Follows cut' steps events result := by
  induction h with
  | done => exact .done
  | taken htaken _ ih => exact .taken htaken ih
  | failed hfailed => exact .failed hfailed
  | cancelled h => exact .cancelled (hcut h)

/-- When all steps are taken, others may follow. -/
theorem append (h : Follows cut steps events (.ok ())) (hrest : Follows cut rest more result) :
    Follows cut (steps ++ rest) (events ++ more) result := by
  generalize hok : (Except.ok () : Except ExecError Unit) = ended at h
  induction h with
  | done => exact hrest
  | taken htaken _ ih =>
    rw [List.append_assoc]
    exact .taken htaken (ih hok)
  | failed _ => cases hok
  | cancelled _ => cases hok

/-- Nothing follows an error. -/
theorem append_error {e : ExecError} (h : Follows cut steps events (.error e)) :
    Follows cut (steps ++ rest) events (.error e) := by
  generalize herror : (Except.error e : Except ExecError Unit) = ended at h
  induction h with
  | done => cases herror
  | taken htaken _ ih => exact .taken htaken (ih herror)
  | failed hfailed => exact .failed hfailed
  | cancelled hcut => exact .cancelled hcut

/-- The steps have been followed to their end exactly when the server took every one of them. -/
theorem eq_ok_iff (h : Follows cut steps events result) :
    result = .ok () ↔ ∃ parts, List.Forall₂ Taken steps parts ∧ events = parts.flatten := by
  induction h with
  | done => exact iff_of_true rfl ⟨[], .nil, rfl⟩
  | @taken step rest first more result htaken _ ih =>
    rw [ih]
    constructor
    · rintro ⟨parts, hparts, rfl⟩
      exact ⟨first :: parts, .cons htaken hparts, rfl⟩
    · rintro ⟨_, hall, heq⟩
      cases hall with
      | cons hpart hparts => exact ⟨_, hparts, htaken.append_inj hpart heq⟩
  | failed hfailed =>
    refine iff_of_false nofun ?_
    rintro ⟨_, hall, heq⟩
    cases hall with
    | cons hpart _ => exact hfailed.not_taken hpart heq
  | cancelled _ =>
    refine iff_of_false nofun ?_
    rintro ⟨_, hall, heq⟩
    cases hall with
    | cons hpart _ => exact hpart.ne_nil heq.symm

end Follows

/-! ### Runs that follow steps -/

/-- Whatever is answered, the run follows the steps. -/
def Exec.Takes {α : Type} (x : Exec α) (steps : List WorkStep) : Prop :=
  ∀ events result, x.Plays events result →
    Follows (ReadSet events) steps (dealings events) (result.map fun _ => ())

namespace Exec

variable {α β : Type} {x : Exec α} {f : α → Exec β} {steps rest : List WorkStep} {step : WorkStep}

theorem Takes.bind (h : x.Takes steps) (hf : ∀ a, (f a).Takes rest) :
    (x >>= f).Takes (steps ++ rest) := by
  intro events result hp
  rcases plays_bind.1 hp with ⟨a, before, after, rfl, hb, ha⟩ | ⟨e, hb, rfl⟩
  · have hfirst := (h _ _ hb).mono fun hread => readSet_append.2 (.inl hread : _ ∨ ReadSet after)
    have hnext := (hf a _ _ ha).mono fun hread => readSet_append.2 (.inr hread : ReadSet before ∨ _)
    rw [dealings_append]
    exact hfirst.append hnext
  · exact (h _ _ hb).append_error

theorem takes_told {r : Run α} (h : r.Only (·.toUser = true)) : (liftM r : Exec α).Takes [] := by
  intro events result hp
  obtain ⟨a, hr, rfl⟩ := plays_lift.1 hp
  rw [dealings_of_quiet fun e he => h _ _ hr e he]
  exact .done

/-- A look at the token may come before any step. -/
theorem Takes.afterLook {x : Unit → Exec α} (h : (x ()).Takes (step :: rest)) :
    (checkCancelled >>= x).Takes (step :: rest) := by
  intro events result hp
  obtain ⟨behind, rfl, hx⟩ | ⟨rfl, rfl⟩ := plays_checkCancelled_bind hp
  · exact (h _ _ hx).mono fun hread => List.mem_cons_of_mem _ hread
  · exact .cancelled List.mem_cons_self

theorem takes_batch {sql : Text} (htaken : ∀ text, step.Taken [⟨.batch sql, .ok text⟩])
    (hfailed : ∀ e : BatchError,
      step.Failed [⟨.batch sql, .error e⟩] (.server e.fullText)) :
    (Exec.batch sql).Takes [step] := by
  intro events result hp
  obtain ⟨reply, before, after, rfl, hsent, hend⟩ := plays_lift_bind hp
  obtain rfl := (Run.plays_act (.batch sql)).1 hsent
  cases reply with
  | ok text =>
    obtain ⟨rfl, rfl⟩ := hend
    exact .taken (htaken text) .done
  | error e =>
    obtain ⟨rfl, rfl⟩ := hend
    exact .failed (hfailed e)

end Exec

namespace Compiler

variable {ctx : Context} {kind : CompilerKind} {plan : CompilePlan} {events : List Event}

/-- How a table is filled from a data file that was made. -/
theorem plays_load {table : Text} {data : Except IoError DataFile} {transfer : Transfer}
    (h : (Bulk.load table data).Plays events transfer) :
    (∃ count, transfer.result = .ok count ∧ (WorkStep.fill table (.ok data)).Taken events) ∨
      ∃ e, transfer.result = .error e ∧ (WorkStep.fill table (.ok data)).Failed events e := by
  obtain ⟨reply, before, after, rfl, hasked, hrest⟩ := Run.plays_bind.1 h
  obtain rfl := (Run.plays_act (.columns table)).1 hasked
  cases reply with
  | error e =>
    obtain ⟨rfl, rfl⟩ := hrest
    exact .inr ⟨e, rfl, .columns table data e⟩
  | ok columns =>
    dsimp only at hrest
    split at hrest
    · rename_i hnone
      obtain ⟨rfl, rfl⟩ := hrest
      obtain rfl := hnone
      exact .inr ⟨_, rfl, .unknown table data⟩
    · rename_i hcolumns
      cases data with
      | error cause =>
        obtain ⟨rfl, rfl⟩ := hrest
        exact .inr ⟨_, rfl, .unopened table cause hcolumns⟩
      | ok file =>
        obtain ⟨⟨moved, ended⟩, during, behind, rfl, hloaded, hend⟩ := Run.plays_bind.1 hrest
        obtain rfl := (Run.plays_act (.load table columns (file.stream columns))).1 hloaded
        cases ended with
        | error e =>
          obtain ⟨rfl, rfl⟩ := hend
          exact .inr ⟨e, rfl, .fill table file hcolumns moved e⟩
        | ok count =>
          cases hread : file.failure with
          | none =>
            rw [hread] at hend
            obtain ⟨rfl, rfl⟩ := hend
            exact .inl ⟨count, rfl, .fill table hread hcolumns moved count⟩
          | some cause =>
            rw [hread] at hend
            obtain ⟨rfl, rfl⟩ := hend
            exact .inr ⟨_, rfl, .unread table hread hcolumns moved count⟩

theorem takes_fillTable (table : Text) (rows : List Row) :
    (fillTable ctx table rows).Takes [.fill table (supply ctx rows)] := by
  intro events result hp
  cases hfile : ctx.scratch .rows (dataText rows) with
  | error cause =>
    have hsupply : supply ctx rows = .error cause := by rw [supply, hfile]; rfl
    unfold fillTable at hp
    rw [hfile] at hp
    obtain ⟨rfl, rfl⟩ := hp
    rw [hsupply]
    exact .failed (.unmade table cause)
  | ok file =>
    have hsupply : supply ctx rows = .ok (DataFile.find file.2 file.1) := by rw [supply, hfile]; rfl
    rw [fillTable_eq hfile] at hp
    obtain ⟨ended, hload, rfl⟩ := Exec.plays_map.1 hp
    obtain ⟨transfer, htransfer, rfl⟩ := Run.plays_map.1 hload
    rw [hsupply]
    obtain ⟨count, hcount, htaken⟩ | ⟨e, he, hfailed⟩ := plays_load htransfer
    · rw [hcount, htaken.dealings_eq, ← List.append_nil events]
      exact .taken htaken .done
    · rw [he, hfailed.dealings_eq]
      exact .failed hfailed

theorem takes_loadTable (table : Text) (rows : List Row) :
    (loadTable ctx table rows).Takes [.clear table, .fill table (supply ctx rows)] := by
  have hclear : (Exec.batch ("delete from " ++ table)).Takes [.clear table] :=
    Exec.takes_batch (.clear table) (.clear table)
  exact hclear.bind fun _ => takes_fillTable table rows

theorem takes_loadAll (ctx : Context) (kind : CompilerKind) : ∀ loads : List WorkTable,
    (loadAll ctx kind loads).Takes (loads.flatMap (ofLoad ctx))
  | [] => by
    rintro events result ⟨rfl, rfl⟩
    exact .done
  | load :: rest => by
    refine Exec.Takes.afterLook ?_
    refine (takes_loadTable (ctx.resolveWord load.table) load.rows).bind fun _ => ?_
    exact (Exec.takes_told (Run.only_emit _)).bind fun _ => takes_loadAll ctx kind rest

/-- A session is opened for the steps of the plan and closed behind them. -/
theorem plays_apply {ended : Except ExecError Unit} (h : (apply ctx kind plan).Plays events ended) :
    (∃ e, dealings events = [⟨.connect none, .error e⟩] ∧ ended = .error e) ∨
      ∃ work reply, dealings events = ⟨.connect none, .ok ()⟩ :: (work ++ [⟨.disconnect, reply⟩]) ∧
        Follows (ReadSet events) (ofPlan ctx plan) work ended := by
  rcases Exec.plays_withSession h with ⟨e, rfl, rfl⟩ | ⟨during, reply, rest, rfl, hwork, hwarned⟩
  · exact .inl ⟨e, rfl, rfl⟩
  refine .inr ⟨dealings during, reply, ?_, ?_⟩
  · have hrest : dealings (⟨.disconnect, reply⟩ :: rest) = [⟨.disconnect, reply⟩] :=
      congrArg (_ :: ·) (dealings_of_quiet hwarned.quiet)
    exact congrArg (_ :: ·) ((dealings_append _ _).trans (congrArg (_ ++ ·) hrest))
  · have hsent : (Exec.batch ("exec " ++ ctx.resolveWord plan.procedure)).Takes
        [.call (ctx.resolveWord plan.procedure)] := Exec.takes_batch (.call _) (.call _)
    have hcall := hsent.bind fun text => Exec.takes_told (Run.only_emit text)
    have hsteps := ((takes_loadAll ctx kind plan.loads).bind fun _ => hcall.afterLook) _ _ hwork
    have hended : ended.map (fun _ => ()) = ended := by cases ended <;> rfl
    rw [hended] at hsteps
    exact hsteps.mono fun h => List.mem_cons_of_mem _ (readSet_append.2 (.inl h))

/-- What the end of the steps makes of a run: a failure is one failed unit, unless it is the
cancellation. -/
def concluded : Except ExecError Unit → Except ExecError Outcome
  | .ok () => .ok .success
  | .error .cancelled => .error .cancelled
  | .error _ => .ok .failure

theorem concluded_eq_success {ended : Except ExecError Unit} :
    concluded ended = .ok .success ↔ ended = .ok () := by
  cases ended with
  | ok _ => exact iff_of_true rfl rfl
  | error e =>
    refine iff_of_false ?_ nofun
    cases e <;> exact nofun

theorem plays_follow {outcome : Except ExecError Outcome}
    (h : (follow ctx kind plan).Plays events outcome) :
    ∃ applied told ended, events = applied ++ told ∧ (apply ctx kind plan).Plays applied ended ∧
      Quiet told ∧ outcome = concluded ended := by
  obtain ⟨ended, applied, told, rfl, happly, hrest⟩ := Exec.plays_lift_bind h
  refine ⟨applied, told, ended, rfl, happly, ?_⟩
  cases ended with
  | ok _ =>
    obtain ⟨_, emitted, behind, rfl, hemit, hend⟩ := Exec.plays_lift_bind hrest
    obtain ⟨rfl, rfl⟩ := hend
    rw [List.append_nil]
    exact ⟨fun e he => Run.only_emit _ _ _ hemit e he, rfl⟩
  | error e =>
    cases e with
    | cancelled =>
      obtain ⟨rfl, rfl⟩ := hrest
      exact ⟨quiet_nil, rfl⟩
    | _ =>
      obtain ⟨rfl, hquiet, -⟩ := Exec.plays_failWith hrest
      exact ⟨hquiet, rfl⟩

/-- Without a plan a compiler leaves the server alone and fails. With one it follows the steps of
the plan on one connection, up to the first that fails, and it succeeds exactly when all of them
have been taken. -/
theorem stops_at_first_failure {outcome : Except ExecError Outcome}
    (hraw : ctx.env.rawMode = false) (h : (run ctx kind).Plays events outcome) :
    (∀ e, (kind.plan ctx).run.value = .error e →
      dealings events = [] ∧ outcome = .ok .failure) ∧
    ∀ plan, (kind.plan ctx).run.value = .ok plan →
      (∃ e, dealings events = [⟨.connect none, .error e⟩] ∧ outcome = concluded (.error e)) ∨
      ∃ work reply ended,
        dealings events = ⟨.connect none, .ok ()⟩ :: (work ++ [⟨.disconnect, reply⟩]) ∧
        Follows (ReadSet events) (ofPlan ctx plan) work ended ∧ outcome = concluded ended ∧
        (outcome = .ok .success ↔
          ∃ parts, List.Forall₂ Taken (ofPlan ctx plan) parts ∧ work = parts.flatten) := by
  unfold run at h
  rw [hraw] at h
  obtain ⟨_, warned, after, rfl, hwarn, hrest⟩ := Exec.plays_lift_bind h
  have hwarned : dealings warned = [] :=
    dealings_of_quiet fun e he => only_warnAll _ _ _ hwarn e he
  rw [dealings_append, hwarned, List.nil_append]
  constructor
  · intro e he
    rw [he] at hrest
    obtain ⟨rfl, hquiet, -⟩ := Exec.plays_failWith hrest
    exact ⟨dealings_of_quiet hquiet, rfl⟩
  · intro plan hplan
    rw [hplan] at hrest
    obtain ⟨applied, told, ended, rfl, happly, hquiet, rfl⟩ := plays_follow hrest
    rw [dealings_append, dealings_of_quiet hquiet, List.append_nil]
    obtain ⟨e, hdealings, rfl⟩ | ⟨work, reply, hdealings, hfollows⟩ := plays_apply happly
    · exact .inl ⟨e, hdealings, rfl⟩
    · refine .inr ⟨work, reply, ended, hdealings, hfollows.mono fun hread => ?_, rfl, ?_⟩
      · exact readSet_append.2 (.inr (readSet_append.2 (.inl hread)))
      · rw [concluded_eq_success, hfollows.eq_ok_iff]

open Rehearsal

/-- An action with one detail. -/
def closeOrder : Context :=
  let env : Environment :=
    { name := "dev", host := "dbhost", port := none, user := "sa", password := "secret",
      platform := .mssql, company := "101", language := "1", root := "/sql", rawMode := false,
      named := true }
  let file (name : Text) (fields : List (Nat × Text)) : Path × Node :=
    let line := fields.flatMap fun (width, field) => Text.padEnd width field
    (["sql", "CSS", "Setup", name], .file (Utf8.encode (line ++ "\n")) 0)
  { env
    options := { env, maxAge := 0 }
    files := { entries := [
      (["tmp"], .directory),
      file "actions" [(40, "close_order"), (10, "proc"), (0, "Closes an order")],
      file "actions_dtl" [(40, "close_order"), (6, "1"), (40, "i_close_order"), (0, "@id")]] } }

def closeOrderPlan : CompilePlan :=
  ⟨[⟨"&w_actions&", [["close_order", "proc", "Closes an order"]]⟩,
    ⟨"&w_actions_dtl&", [["close_order", "1", "i_close_order", "@id"]]⟩], "&i_actions_compile&"⟩

/-- The work table of the details is missing: the actions are loaded, and the procedure is not
called. -/
theorem stops_at_first_failure_closeOrder :
    let work := (run closeOrder .actions).run
    let columns : List ColumnInfo := [⟨"action", "char"⟩, ⟨"type", "char"⟩, ⟨"text", "char"⟩]
    let server : MemoryServer := { tables := [⟨"&w_actions&", columns, []⟩] }
    let events := work.trace MemoryServer.host server
    closeOrder.env.rawMode = false ∧
      (CompilerKind.actions.plan closeOrder).run.value = .ok closeOrderPlan ∧
      (work.exec MemoryServer.host server).1 = .ok .failure ∧
      (dealings events).map Event.action = [.connect none, .batch "delete from &w_actions&",
        .columns "&w_actions&",
        .load "&w_actions&" columns ([["close_order", "proc", "Closes an order"]] : List Row),
        .batch "delete from &w_actions_dtl&", .columns "&w_actions_dtl&", .disconnect] ∧
      ∃ steps ended, Follows (ReadSet events) (ofPlan closeOrder closeOrderPlan) steps ended ∧
        concluded ended = .ok .failure := by
  intro work columns server events
  have hplan : (CompilerKind.actions.plan closeOrder).run.value = .ok closeOrderPlan := by
    decide +kernel
  have hended : (work.exec MemoryServer.host server).1 = .ok .failure := by decide +kernel
  have hasked : (dealings events).map Event.action = [.connect none,
      .batch "delete from &w_actions&", .columns "&w_actions&",
      .load "&w_actions&" columns ([["close_order", "proc", "Closes an order"]] : List Row),
      .batch "delete from &w_actions_dtl&", .columns "&w_actions_dtl&", .disconnect] := by
    decide +kernel
  refine ⟨rfl, hplan, hended, hasked, ?_⟩
  obtain ⟨-, hfollows⟩ := stops_at_first_failure rfl (Run.plays_exec MemoryServer.host work server)
  obtain ⟨e, hrefused, -⟩ | ⟨steps, reply, ended, -, hsteps, houtcome, -⟩ := hfollows _ hplan
  · rw [show dealings events = _ from hrefused] at hasked
    cases hasked
  · exact ⟨steps, ended, hsteps, houtcome.symm.trans hended⟩

end Compiler

end SqlBuild
