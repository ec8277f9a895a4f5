import SqlBuild.Proofs.Cancellation

/-!
# Straight-line runs

A run is straight when all it asks is settled beforehand: while every session can be opened, it asks
the same things in the same order whatever comes back, and only a token that reads as set ends it
before its end (`Exec.Straight`). Which of its requests are made is then a function of the token
alone (`Exec.Straight.asked_eq`). Scripts and the audit entry are straight.
-/

namespace SqlBuild

/-- Whether an action asks something of the server or looks at the token. -/
def Action.isAsked (action : Action) : Bool := action.isRequest || action == .poll

/-- What was asked of the server, and the looks at the token, in order. -/
def asked (events : List Event) : List Action := (events.map Event.action).filter Action.isAsked

def Event.refuses : Event → Bool
  | ⟨.connect _, .error _⟩ => true
  | _ => false

/-- The server opens every session it is asked for. -/
def AllOpen (events : List Event) : Prop := ∀ e ∈ events, e.refuses = false

instance (events : List Event) : Decidable (AllOpen events) :=
  inferInstanceAs (Decidable (∀ e ∈ events, e.refuses = false))

def Event.look? : Event → Option Bool
  | ⟨.poll, reply⟩ => some reply
  | _ => none

def looks (events : List Event) : List Bool := events.filterMap Event.look?

/-- After `n` reads the token read as `token n`. -/
def Reads (token : Nat → Bool) (events : List Event) : Prop :=
  ∀ n reply, (looks events)[n]? = some reply → reply = token n

/-- What is asked of `items` up to the first look that reads as set, and whether there is one. -/
def upTo (token : Nat → Bool) : List Action → List Action × Bool
  | [] => ([], false)
  | .poll :: rest =>
    if token 0 then ([.poll], true)
    else (upTo (fun n => token (n + 1)) rest).map (.poll :: ·) id
  | action :: rest => (upTo token rest).map (action :: ·) id

/-- Batches with the database of the session that was opened last. -/
def addressed (database : Option Text) : List Action → List (Option Text × Text)
  | [] => []
  | .connect opened :: rest => addressed opened rest
  | .batch sql :: rest => (database, sql) :: addressed database rest
  | _ :: rest => addressed database rest

/-- The batches sent, each with the database of its session. -/
def sentTo (events : List Event) : List (Option Text × Text) :=
  addressed none (events.map Event.action)

theorem allOpen_append {before after : List Event} :
    AllOpen (before ++ after) ↔ AllOpen before ∧ AllOpen after := List.forall_mem_append

theorem asked_append (before after : List Event) :
    asked (before ++ after) = asked before ++ asked after := by
  rw [asked, List.map_append, List.filter_append]
  rfl

theorem asked_eq_nil {events : List Event} (h : ∀ e ∈ events, e.action.isAsked = false) :
    asked events = [] := by
  refine List.filter_eq_nil_iff.2 fun action ha => ?_
  obtain ⟨e, he, rfl⟩ := List.mem_map.1 ha
  simp [h e he]

theorem Quiet.asked_eq {events : List Event} (h : Quiet events) : asked events = [] := by
  refine asked_eq_nil fun e he => ?_
  have hu := h e he
  generalize e.action = action at hu
  cases action with
  | print _ | warn _ => rfl
  | _ => cases hu

theorem Closing.asked_eq {events : List Event} (h : Closing events) : asked events = [] := by
  refine asked_eq_nil fun e he => ?_
  obtain heq | ⟨text, heq⟩ := h e he <;> rw [heq] <;> rfl

theorem Quiet.not_readSet {events : List Event} (h : Quiet events) : ¬ ReadSet events := by
  intro hread
  cases h _ hread

theorem unhindered_iff {events : List Event} :
    Unhindered events ↔ AllOpen events ∧ ¬ ReadSet events := by
  constructor
  · intro h
    refine ⟨fun e he => ?_, fun hread => by cases h _ hread⟩
    have hfree := h e he
    obtain ⟨action, reply⟩ := e
    cases action with
    | connect database => cases reply <;> first | rfl | cases hfree
    | _ => rfl
  · rintro ⟨hopen, hread⟩ ⟨action, reply⟩ he
    have hrefuses := hopen _ he
    cases action with
    | connect database => cases reply <;> first | rfl | cases hrefuses
    | poll =>
      cases reply with
      | false => rfl
      | true => exact absurd he hread
    | _ => rfl

theorem Unhindered.reads {events : List Event} (h : Unhindered events) :
    Reads (fun _ => false) events := by
  intro n reply hn
  obtain ⟨e, he, hlook⟩ := List.mem_filterMap.1 (List.mem_of_getElem? hn)
  have hfree := h e he
  obtain ⟨action, answer⟩ := e
  cases action with
  | poll =>
    obtain rfl := Option.some.inj hlook
    cases answer with
    | false => rfl
    | true => cases hfree
  | _ => cases hlook

theorem addressed_asked (database : Option Text) :
    ∀ events : List Event, addressed database (asked events) =
      addressed database (events.map Event.action)
  | [] => rfl
  | ⟨action, reply⟩ :: rest => by
    have ih := fun database => addressed_asked database rest
    cases action with
    | batch sql => exact congrArg ((database, sql) :: ·) (ih database)
    | connect opened => exact ih opened
    | _ => exact ih database

def Action.sql? : Action → Option Text
  | batch sql => some sql
  | _ => none

theorem map_fst_sent : ∀ events : List Event,
    (sent events).map Prod.fst = (asked events).filterMap Action.sql?
  | [] => rfl
  | ⟨action, reply⟩ :: rest => by
    have ih := map_fst_sent rest
    cases action with
    | batch sql => exact congrArg _ ih
    | _ => exact ih

/-- What is asked before a token reads as set is asked in any case. -/
theorem upTo_asked : ∀ {before : List Event} {token : Nat → Bool}, ¬ ReadSet before →
    Reads token before → ∀ rest, upTo token (asked before ++ rest) =
      (upTo (fun n => token (n + (looks before).length)) rest).map (asked before ++ ·) id
  | [], _, _, _, _ => rfl
  | ⟨action, reply⟩ :: before, token, hunset, hreads, rest => by
    have hrest : ¬ ReadSet before := fun h => hunset (List.mem_cons_of_mem _ h)
    cases action with
    | poll =>
      cases reply with
      | true => exact absurd List.mem_cons_self hunset
      | false =>
        have hfirst : token 0 = false := (hreads 0 false rfl).symm
        -- The token has been read once, so it reads one further on from here.
        have ih := upTo_asked hrest (fun n reply h => hreads (n + 1) reply h) rest
        show upTo token (.poll :: (asked before ++ rest)) = _
        rw [upTo, hfirst, if_neg (by simp), ih, Prod.map_map]
        rfl
    | disconnect | print _ | warn _ => exact upTo_asked hrest hreads rest
    | _ =>
      have ih := upTo_asked hrest hreads rest
      show (upTo token (asked before ++ rest)).map (_ :: ·) id = _
      rw [ih, Prod.map_map]
      rfl

/-- Some of `items` were asked, up to a look at the token that read as set. -/
def CutOff (events : List Event) (items : List Action) : Prop :=
  ∃ before rest, CutAfter before events ∧ items = asked before ++ .poll :: rest

namespace CutOff

variable {before after : List Event} {items more : List Action}

theorem prepend (h : CutOff after more) (hunset : ¬ ReadSet before) :
    CutOff (before ++ after) (asked before ++ more) := by
  obtain ⟨start, rest, hcut, rfl⟩ := h
  refine ⟨before ++ start, rest, hcut.prepend hunset, ?_⟩
  rw [asked_append, List.append_assoc]

theorem append (h : CutOff before items) (hafter : Closing after) (more : List Action) :
    CutOff (before ++ after) (items ++ more) := by
  obtain ⟨start, rest, hcut, rfl⟩ := h
  refine ⟨start, rest ++ more, hcut.append hafter, ?_⟩
  rw [List.append_assoc, List.cons_append]

end CutOff

namespace Exec

variable {α β : Type} {items more : List Action}

/-- All that the run asks is settled beforehand: while sessions can be opened, it asks `items` and
comes to its end, or a look at the token cuts it off. -/
def Straight (x : Exec α) (items : List Action) : Prop :=
  ∀ events result, x.Plays events result → AllOpen events →
    (∃ a, result = .ok a ∧ ¬ ReadSet events ∧ asked events = items) ∨
      result = .error .cancelled ∧ CutOff events items

theorem straight_pure (a : α) : (pure a : Exec α).Straight [] := by
  rintro events result ⟨rfl, rfl⟩ -
  exact .inl ⟨a, rfl, by simp [ReadSet], rfl⟩

theorem straight_tell {r : Run α} (h : r.Only (·.toUser = true)) :
    (liftM r : Exec α).Straight [] := by
  intro events result hp _
  obtain ⟨a, hr, rfl⟩ := plays_lift.1 hp
  have hquiet : Quiet events := h _ _ hr
  exact .inl ⟨a, rfl, hquiet.not_readSet, hquiet.asked_eq⟩

theorem straight_sendBatch (sql : Text) :
    (liftM (Run.batch sql) : Exec BatchResult).Straight [.batch sql] := by
  intro events result hp _
  obtain ⟨reply, hr, rfl⟩ := plays_lift.1 hp
  obtain rfl := (Run.plays_act (.batch sql)).1 hr
  exact .inl ⟨reply, rfl, not_readSet (by simp), rfl⟩

theorem straight_checkCancelled : checkCancelled.Straight [.poll] := by
  intro events result hp _
  obtain ⟨rfl, rfl⟩ | ⟨rfl, rfl⟩ := plays_checkCancelled hp
  · refine .inl ⟨(), rfl, fun h => ?_, rfl⟩
    cases List.mem_singleton.1 h
  · exact .inr ⟨rfl, [], [], ⟨by simp [ReadSet], [], rfl, by simp [Closing]⟩, rfl⟩

theorem Straight.goesOn {y : Exec β} (hy : y.Straight more) {before after : List Event}
    {result : Except ExecError β} (hp : y.Plays after result) (hopen : AllOpen after)
    (hunset : ¬ ReadSet before) (hasked : asked before = items) :
    (∃ b, result = .ok b ∧ ¬ ReadSet (before ++ after) ∧ asked (before ++ after) = items ++ more) ∨
      result = .error .cancelled ∧ CutOff (before ++ after) (items ++ more) := by
  subst hasked
  rcases hy _ _ hp hopen with ⟨b, rfl, hread, rfl⟩ | ⟨rfl, hcut⟩
  · refine .inl ⟨b, rfl, fun h => (readSet_append.1 h).elim hunset hread, asked_append _ _⟩
  · exact .inr ⟨rfl, hcut.prepend hunset⟩

theorem Straight.bind {x : Exec α} {f : α → Exec β} (hx : x.Straight items)
    (hf : ∀ a, (f a).Straight more) : (x >>= f).Straight (items ++ more) := by
  intro events result hp hopen
  rcases plays_bind.1 hp with ⟨a, before, after, rfl, hb, ha⟩ | ⟨e, hb, rfl⟩
  · obtain ⟨hbefore, hafter⟩ := allOpen_append.1 hopen
    rcases hx _ _ hb hbefore with ⟨_, -, hunset, hasked⟩ | ⟨hcon, -⟩
    · exact (hf a).goesOn ha hafter hunset hasked
    · cases hcon
  · rcases hx _ _ hb hopen with ⟨_, hcon, -⟩ | ⟨heq, hcut⟩
    · cases hcon
    · have hnone : Closing [] := by simp [Closing]
      have hmore := hcut.append hnone more
      rw [List.append_nil] at hmore
      exact .inr ⟨by rw [Except.error.inj heq], hmore⟩

theorem Straight.bind_pure {x : Exec α} (hx : x.Straight items) (f : α → β) :
    (x >>= fun a => pure (f a)).Straight items := by
  have h := hx.bind fun a => straight_pure (f a)
  rwa [List.append_nil] at h

/-- What is done with the result of a run asks nothing that depends on it. -/
theorem Straight.attempt {x : Exec α} {handle : Except ExecError α → Exec β}
    (hx : x.Straight items) (passes : handle (.error .cancelled) = throw .cancelled)
    (handled : ∀ a, (handle (.ok a)).Straight more) :
    (liftM x.run >>= handle).Straight (items ++ more) := by
  intro events result hp hopen
  obtain ⟨r, before, after, rfl, hb, ha⟩ := plays_lift_bind hp
  obtain ⟨hbefore, hafter⟩ := allOpen_append.1 hopen
  rcases hx before r hb hbefore with ⟨a, rfl, hunset, hasked⟩ | ⟨rfl, hcut⟩
  · exact (handled a).goesOn ha hafter hunset hasked
  · rw [passes] at ha
    obtain ⟨rfl, rfl⟩ := ha
    exact .inr ⟨rfl, hcut.append (by simp [Closing]) more⟩

theorem Straight.orFold {work : Exec Outcome} (h : work.Straight items) :
    (orFold work).Straight items := by
  have hstraight : (Exec.orFold work).Straight (items ++ []) :=
    h.attempt rfl fun outcome => straight_pure outcome
  rwa [List.append_nil] at hstraight

theorem Straight.withSession {work : Exec α} (h : work.Straight items) (database : Option Text) :
    (withSession database work).Straight (.connect database :: items) := by
  intro events result hp hopen
  rcases plays_withSession hp with ⟨e, rfl, -⟩ | ⟨during, reply, rest, rfl, hd, hw⟩
  · cases hopen _ List.mem_cons_self
  · have hduring : AllOpen during :=
      fun e he => hopen e (List.mem_cons_of_mem _ (List.mem_append_left _ he))
    have hclose : Closing (⟨.disconnect, reply⟩ :: rest) :=
      List.forall_mem_cons.2 ⟨.inl rfl, hw.closing⟩
    have hconnect : ¬ ReadSet [⟨.connect database, .ok ()⟩] := not_readSet (by simp)
    rcases h _ _ hd hduring with ⟨a, rfl, hunset, rfl⟩ | ⟨rfl, hcut⟩
    · refine .inl ⟨a, rfl, fun hread => ?_, ?_⟩
      · rcases (readSet_append.1 hread : ReadSet [⟨.connect database, .ok ()⟩] ∨ _) with
          hfirst | hlater
        · exact hconnect hfirst
        · exact (readSet_append.1 hlater).elim hunset hclose.not_readSet
      · show .connect database :: asked (during ++ ⟨.disconnect, reply⟩ :: rest) = _
        rw [asked_append, hclose.asked_eq, List.append_nil]
    · have hall := (hcut.append hclose []).prepend hconnect
      rw [List.append_nil] at hall
      exact .inr ⟨rfl, hall⟩

/-- What a straight run asks of the server, and whether it is cut off, depends on its token only. -/
theorem Straight.asked_eq {x : Exec α} (h : x.Straight items) {events : List Event}
    {result : Except ExecError α} (hp : x.Plays events result) (hopen : AllOpen events)
    {token : Nat → Bool} (hreads : Reads token events) :
    asked events = (upTo token items).1 ∧
      ((upTo token items).2 = true ∧ ReadSet events ∧ result = .error .cancelled ∨
        (upTo token items).2 = false ∧ ¬ ReadSet events ∧ ∃ a, result = .ok a) := by
  rcases h _ _ hp hopen with ⟨a, rfl, hunset, rfl⟩ | ⟨rfl, before, rest, hcut, rfl⟩
  · have hall := upTo_asked hunset hreads []
    rw [List.append_nil] at hall
    rw [hall]
    exact ⟨(List.append_nil _).symm, .inr ⟨rfl, hunset, a, rfl⟩⟩
  · have hread := hcut.readSet
    obtain ⟨hunset, close, rfl, hclose⟩ := hcut
    have hlooks : looks (before ++ ⟨.poll, true⟩ :: close) = looks before ++ true :: looks close :=
      List.filterMap_append
    rw [Reads, hlooks] at hreads
    have hbefore : Reads token before := by
      intro n reply hn
      refine hreads n reply ?_
      rw [List.getElem?_append_left (List.getElem?_eq_some_iff.1 hn).1, hn]
    have hset : token (looks before).length = true :=
      (hreads _ true (by rw [List.getElem?_append_right (Nat.le_refl _)]; simp)).symm
    have hcut : upTo token (asked before ++ .poll :: rest) = (asked before ++ [.poll], true) := by
      rw [upTo_asked hunset hbefore, upTo]
      simp [hset]
    have hlook : asked (⟨.poll, true⟩ :: close) = .poll :: asked close := rfl
    rw [hcut, asked_append, hlook, hclose.asked_eq]
    exact ⟨rfl, .inl ⟨rfl, hread, rfl⟩⟩

end Exec

open Exec

/-- What the batches of a script come to: a look at the token before each. -/
def Batch.items (batches : List Text) : List Action :=
  (sendable batches).flatMap fun batch => [.poll, .batch batch]

theorem Batch.filterMap_sql_items (batches : List Text) :
    (items batches).filterMap Action.sql? = sendable batches := by
  rw [items, List.filterMap_flatMap]
  exact List.flatMap_singleton' _

theorem Batch.straight_runFrom {observe : Nat → Text → BatchResult → Run Unit}
    (hobs : ∀ index batch result, (observe index batch result).Only (·.toUser = true)) :
    ∀ (batches : List Text) (index : Nat),
      (runFrom observe index batches).Straight (items batches)
  | [], _ => straight_pure []
  | batch :: rest, index => by
    rw [runFrom]
    split
    · rename_i hexit
      rw [items, sendable, List.takeWhile_cons, hexit]
      exact straight_pure []
    · rename_i hexit
      rw [items, sendable_cons (by simpa using hexit), List.flatMap_cons]
      refine straight_checkCancelled.bind fun _ => ?_
      refine (straight_sendBatch batch).bind fun result => ?_
      have hshow := straight_tell (hobs index batch result)
      exact hshow.bind fun _ => (straight_runFrom hobs rest (index + 1)).bind_pure (result :: ·)

theorem Batch.straight_runOnce (sql : Text) (database : Option Text) :
    (runOnce sql database).Straight (.connect database :: items (split sql)) :=
  ((straight_runFrom (fun _ _ _ => Run.only_done ()) (split sql) 0).bind_pure _).withSession database

def Audit.script (ctx : Context) (program : Text) (vars : RunVariables) : Text :=
  ctx.resolveWord (statement program vars.commandLine ctx.env.user) ++ "\ngo\n"

theorem Audit.straight_write (ctx : Context) (program : Text) (vars : RunVariables) :
    (write ctx program vars).Straight
      (.connect vars.database :: Batch.items (Batch.split (script ctx program vars))) := by
  have hwrite : (write ctx program vars).Straight
      ((.connect vars.database :: Batch.items (Batch.split (script ctx program vars))) ++ []) := by
    refine (Batch.straight_runOnce _ vars.database).attempt rfl fun report => ?_
    dsimp only
    split
    · exact straight_pure ()
    · exact (straight_tell (Run.only_act rfl)).bind fun _ => straight_tell (Run.only_write _)
  rwa [List.append_nil] at hwrite

namespace Script

variable {ctx : Context} {vars : RunVariables}

def iterationItems (vars : RunVariables) (sql : Text) : List Action :=
  .poll :: if vars.preview then [] else .connect vars.database :: Batch.items (Batch.split sql)

theorem straight_execute (sql : Text) (database : Option Text) (echo audited : Bool) :
    (execute sql database echo audited).Straight
      (.connect database :: Batch.items (Batch.split sql)) :=
  ((Batch.straight_runFrom (only_showBatch echo audited) (Batch.split sql) 0).bind_pure
    _).withSession database

theorem straight_iterate (content : Text) (audit : Option Text) (sequence : Option Int) :
    (iterate ctx vars content audit sequence).Straight
      (iterationItems vars (compose ctx content audit sequence)) := by
  rw [iterationItems]
  refine straight_checkCancelled.bind fun _ => ?_
  cases vars.preview with
  | true => exact (straight_tell (Run.only_emit _)).bind_pure _
  | false => exact ((straight_execute _ vars.database _ _).bind_pure Outcome.unit).orFold.bind_pure _

theorem straight_forValues {work : Option Int → Exec Bool} {items : Option Int → List Action}
    (hwork : ∀ n, (work n).Straight (items n)) : ∀ (count : Nat) (value : Int) (ok : Bool),
      (forValues (fun n => work (some n)) count value ok).Straight
        (((List.range count).map fun k : Nat => some (value + k)).flatMap items)
  | 0, _, ok => straight_pure ok
  | count + 1, value, _ => by
    rw [valuesFrom_succ, List.flatMap_cons]
    exact (hwork _).bind fun _ => straight_forValues hwork count (value + 1) _

def items (ctx : Context) (vars : RunVariables) (audit : Option Text) (content : Text) :
    List Action :=
  (values vars.sequence).flatMap fun n => iterationItems vars (compose ctx content audit n)

theorem straight_runText (audit : Option Text) (content : Text) :
    (runText ctx vars audit content).Straight (items ctx vars audit content) := by
  have hwork : ∀ n, (iterate ctx vars content audit n).Straight
      (iterationItems vars (compose ctx content audit n)) := straight_iterate content audit
  unfold runText items
  cases vars.sequence with
  | none =>
    have hone := (hwork none).bind_pure Outcome.unit
    rwa [values, List.flatMap_singleton]
  | some range =>
    have hall := (straight_forValues hwork (range.last - range.first + 1).toNat range.first
      true).bind_pure Outcome.unit
    exact hall

/-- The batches a script sends, for one value after the other. -/
def batches (ctx : Context) (vars : RunVariables) (audit : Option Text) (content : Text) :
    List Text :=
  if vars.preview then []
  else (values vars.sequence).flatMap fun n =>
    Batch.sendable (Batch.split (compose ctx content audit n))

theorem filterMap_sql_items (audit : Option Text) (content : Text) :
    (items ctx vars audit content).filterMap Action.sql? = batches ctx vars audit content := by
  rw [items, batches, List.filterMap_flatMap]
  unfold iterationItems
  cases vars.preview with
  | true => simp [Action.sql?]
  | false =>
    simp only [Bool.false_eq_true, if_false, List.filterMap_cons, Action.sql?,
      Batch.filterMap_sql_items]

end Script

end SqlBuild
