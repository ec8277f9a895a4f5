import SqlBuild.Proofs.Plays
import SqlBuild.Run.Batch

/-!
# Plays of sessions

What a play of the common pieces of a run looks like: a message to the user, a failure that is
reported and counted, a session around a piece of work, and the batches of a script. The messages of a run leave the
server alone (`Quiet`), the batches it sends are listed by `sent`, and all it asks of the server by
`requests`.
-/

namespace SqlBuild

/-- Whether an action concerns the user only. -/
def Action.toUser : Action → Bool
  | print _ | warn _ => true
  | _ => false

/-- Whether an action asks something of the server. -/
def Action.isRequest : Action → Bool
  | connect _ | batch _ | returnCode _ | columns _ | load .. | unload _ => true
  | disconnect | poll | print _ | warn _ => false

/-- What was asked of the server, in order. -/
def requests (events : List Event) : List Action :=
  (events.map Event.action).filter Action.isRequest

/-- The token was read as set. -/
def ReadSet (events : List Event) : Prop := ⟨.poll, true⟩ ∈ events

/-- The batch an event sent, and its result. -/
def Event.sent? : Event → Option (Text × BatchResult)
  | ⟨.batch sql, result⟩ => some (sql, result)
  | _ => none

/-- The batches sent, and their results. -/
def sent (events : List Event) : List (Text × BatchResult) := events.filterMap Event.sent?

/-- Nothing but messages to the user. -/
def Quiet (events : List Event) : Prop := ∀ e ∈ events, e.action.toUser = true

/-- Nothing but warnings. -/
def OnlyWarns (events : List Event) : Prop := ∀ e ∈ events, ∃ text, e.action = .warn text

/-- An error was reported to the user. -/
def Reported (events : List Event) : Prop :=
  ∃ e ∈ events, ∃ message, e.action = .print (Run.errorLine message)

theorem OnlyWarns.quiet {events : List Event} (h : OnlyWarns events) : Quiet events := by
  intro e he
  obtain ⟨text, ht⟩ := h e he
  rw [ht]
  rfl

theorem OnlyWarns.not_reported {events : List Event} (h : OnlyWarns events) :
    ¬ Reported events := by
  rintro ⟨e, he, message, hm⟩
  obtain ⟨text, ht⟩ := h e he
  rw [hm] at ht
  exact Action.noConfusion ht

@[simp] theorem quiet_nil : Quiet [] := by simp [Quiet]

@[simp] theorem quiet_cons {e : Event} {events : List Event} :
    Quiet (e :: events) ↔ e.action.toUser = true ∧ Quiet events := List.forall_mem_cons

@[simp] theorem quiet_append {before after : List Event} :
    Quiet (before ++ after) ↔ Quiet before ∧ Quiet after := List.forall_mem_append

@[simp] theorem not_reported_nil : ¬ Reported [] := by simp [Reported]

@[simp] theorem reported_append {before after : List Event} :
    Reported (before ++ after) ↔ Reported before ∨ Reported after := by
  simp only [Reported, List.mem_append, or_and_right, exists_or]

@[simp] theorem reported_cons {e : Event} {events : List Event} :
    Reported (e :: events) ↔
      (∃ message, e.action = .print (Run.errorLine message)) ∨ Reported events := by
  simp only [Reported, List.mem_cons, or_and_right, exists_or, exists_eq_left]

@[simp] theorem sent_nil : sent [] = [] := rfl

@[simp] theorem sent_append (before after : List Event) :
    sent (before ++ after) = sent before ++ sent after := List.filterMap_append

theorem sent_cons (e : Event) (events : List Event) :
    sent (e :: events) = e.sent?.toList ++ sent events := by
  rw [sent, List.filterMap_cons]
  cases e.sent? <;> rfl

theorem requests_append (before after : List Event) :
    requests (before ++ after) = requests before ++ requests after := by
  rw [requests, List.map_append, List.filter_append]
  rfl

theorem readSet_append {before after : List Event} :
    ReadSet (before ++ after) ↔ ReadSet before ∨ ReadSet after := List.mem_append

/-- When nothing but batches is asked of the server, these are the batches sent. -/
theorem requests_eq_sent : ∀ {events : List Event},
    (∀ e ∈ events, e.action.isRequest = true → ∃ sql, e.action = .batch sql) →
      requests events = (sent events).map fun b => .batch b.1
  | [], _ => rfl
  | ⟨action, reply⟩ :: rest, h => by
    obtain ⟨hfirst, hrest⟩ := List.forall_mem_cons.1 h
    have ih := requests_eq_sent hrest
    cases action with
    | batch sql => exact congrArg (.batch sql :: ·) ih
    | disconnect | poll | print _ | warn _ => exact ih
    | _ =>
      obtain ⟨sql, hsql⟩ := hfirst rfl
      cases hsql

theorem Quiet.requests_eq {events : List Event} (h : Quiet events) : requests events = [] := by
  refine List.filter_eq_nil_iff.2 fun action ha => ?_
  obtain ⟨e, he, rfl⟩ := List.mem_map.1 ha
  have hu := h e he
  generalize e.action = action at hu
  cases action with
  | print _ | warn _ => exact nofun
  | _ => cases hu

theorem Quiet.sent_eq {events : List Event} (h : Quiet events) : sent events = [] := by
  refine List.filterMap_eq_nil_iff.2 ?_
  rintro ⟨action, reply⟩ he
  have hu := h _ he
  cases action <;> first | rfl | exact absurd hu (by simp [Action.toUser])

@[simp] theorem Outcome.isSuccess_unit (ok : Bool) : (unit ok).isSuccess = ok := by
  cases ok <;> rfl

namespace Run

theorem plays_warn {text : Text} {events : List Event} {u : Unit}
    (h : (warn text).Plays events u) : OnlyWarns events := by
  obtain rfl := (plays_act (.warn text)).1 h
  intro e he
  rw [List.mem_singleton.1 he]
  exact ⟨text, rfl⟩

/-- A text is written by one attempt; its failure costs a warning. -/
theorem plays_write {text : Text} {events : List Event} {u : Unit}
    (h : (write text).Plays events u) :
    ∃ reply rest, events = ⟨.print text, reply⟩ :: rest ∧ OnlyWarns rest := by
  rw [write, plays_bind] at h
  obtain ⟨reply, before, after, rfl, hb, ha⟩ := h
  obtain rfl := (plays_act (.print text)).1 hb
  refine ⟨reply, after, rfl, ?_⟩
  cases reply with
  | ok _ =>
    obtain ⟨rfl, -⟩ := ha
    simp [OnlyWarns]
  | error e => exact plays_warn ha

theorem only_write (text : Text) : (write text).Only (·.toUser = true) := by
  have hprint : (act (.print text)).Only (·.toUser = true) := only_act rfl
  refine hprint.bind fun reply => ?_
  cases reply with
  | ok _ => exact only_done ()
  | error e => exact only_act rfl

theorem only_emit (text : Text) : (emit text).Only (·.toUser = true) := by
  unfold emit
  split
  · exact only_done _
  · exact only_write _

theorem plays_disconnect {events : List Event} {u : Unit} (h : disconnect.Plays events u) :
    ∃ reply rest, events = ⟨.disconnect, reply⟩ :: rest ∧ OnlyWarns rest := by
  rw [disconnect, plays_bind] at h
  obtain ⟨reply, before, after, rfl, hb, ha⟩ := h
  obtain rfl := (plays_act .disconnect).1 hb
  refine ⟨reply, after, rfl, ?_⟩
  cases reply with
  | ok _ =>
    obtain ⟨rfl, -⟩ := ha
    simp [OnlyWarns]
  | error e => exact plays_warn ha

end Run

namespace Exec

variable {α : Type} {events : List Event}

theorem plays_reportError {message : Text} {result : Except ExecError Unit}
    (h : Plays (liftM (Run.reportError message)) events result) :
    result = .ok () ∧ Quiet events ∧ Reported events := by
  obtain ⟨_, hw, rfl⟩ := plays_lift.1 h
  obtain ⟨reply, rest, rfl, hr⟩ := Run.plays_write hw
  exact ⟨rfl, quiet_cons.2 ⟨rfl, hr.quiet⟩, reported_cons.2 (.inl ⟨message, rfl⟩)⟩

/-- A failure is reported and counts as one failed unit. -/
theorem plays_failWith {message : Text} {result : Except ExecError Outcome}
    (h : (failWith message).Plays events result) :
    result = .ok .failure ∧ Quiet events ∧ Reported events := by
  rcases plays_bind.1 h with ⟨_, before, after, rfl, hb, ha⟩ | ⟨e, hb, rfl⟩
  · obtain ⟨-, hq, hr⟩ := plays_reportError hb
    obtain ⟨rfl, rfl⟩ := ha
    rw [List.append_nil]
    exact ⟨rfl, hq, hr⟩
  · obtain ⟨hok, -⟩ := plays_reportError hb
    cases hok

theorem plays_foldError {e : ExecError} {result : Except ExecError Outcome}
    (h : (foldError e).Plays events result) :
    (e = .cancelled ∧ events = [] ∧ result = .error .cancelled) ∨
      (e ≠ .cancelled ∧ result = .ok .failure ∧ Quiet events ∧ Reported events) := by
  cases e with
  | cancelled =>
    obtain ⟨rfl, rfl⟩ := h
    exact .inl ⟨rfl, rfl, rfl⟩
  | _ => exact .inr ⟨by simp, plays_failWith h⟩

/-- The first part is a run that cannot end early. -/
theorem plays_lift_bind {β : Type} {r : Run α} {f : α → Exec β} {result : Except ExecError β}
    (h : ((liftM r : Exec α) >>= f).Plays events result) :
    ∃ a before after, events = before ++ after ∧ r.Plays before a ∧ (f a).Plays after result := by
  rcases plays_bind.1 h with ⟨a, before, after, rfl, hb, ha⟩ | ⟨e, hb, -⟩
  · obtain ⟨a', hr, heq⟩ := plays_lift.1 hb
    obtain rfl := Except.ok.inj heq
    exact ⟨a', before, after, rfl, hr, ha⟩
  · obtain ⟨_, -, heq⟩ := plays_lift.1 hb
    cases heq

/-- Without an error there is nothing to fold. -/
theorem plays_orFold {work : Exec Outcome} {result : Except ExecError Outcome}
    (h : (orFold work).Plays events result)
    (hok : ∀ before after e, events = before ++ after → ¬ work.Plays before (.error e)) :
    work.Plays events result := by
  obtain ⟨r, before, after, rfl, hw, hfold⟩ := plays_lift_bind h
  cases r with
  | ok outcome =>
    obtain ⟨rfl, rfl⟩ := hfold
    rwa [List.append_nil]
  | error e => exact absurd hw (hok before after e rfl)

/-- The run goes on when it has not been cancelled. -/
theorem plays_checkCancelled {result : Except ExecError Unit}
    (h : checkCancelled.Plays events result) :
    (events = [⟨.poll, false⟩] ∧ result = .ok ()) ∨
      (events = [⟨.poll, true⟩] ∧ result = .error .cancelled) := by
  obtain ⟨reply, before, after, rfl, hb, ha⟩ := plays_lift_bind h
  obtain rfl := (Run.plays_act .poll).1 hb
  cases reply with
  | false =>
    obtain ⟨rfl, rfl⟩ := ha
    exact .inl ⟨rfl, rfl⟩
  | true =>
    obtain ⟨rfl, rfl⟩ := ha
    exact .inr ⟨rfl, rfl⟩

theorem only_checkCancelled {P : Action → Prop} (h : P .poll) : checkCancelled.Only P := by
  intro events result hp e he
  obtain ⟨rfl, -⟩ | ⟨rfl, -⟩ := plays_checkCancelled hp
  · rw [List.mem_singleton.1 he]
    exact h
  · rw [List.mem_singleton.1 he]
    exact h

theorem plays_checkCancelled_bind {f : Unit → Exec α} {result : Except ExecError α}
    (h : (checkCancelled >>= f).Plays events result) :
    (∃ rest, events = ⟨.poll, false⟩ :: rest ∧ (f ()).Plays rest result) ∨
      (events = [⟨.poll, true⟩] ∧ result = .error .cancelled) := by
  rcases plays_bind.1 h with ⟨_, before, after, rfl, hb, ha⟩ | ⟨e, hb, rfl⟩
  · obtain ⟨rfl, -⟩ | ⟨-, hcon⟩ := plays_checkCancelled hb
    · exact .inl ⟨after, rfl, ha⟩
    · cases hcon
  · obtain ⟨-, hcon⟩ | ⟨rfl, hcon⟩ := plays_checkCancelled hb
    · cases hcon
    · rw [Except.error.inj hcon]
      exact .inr ⟨rfl, rfl⟩

/-- A session is closed however the work in it ends. -/
theorem plays_withSession {database : Option Text} {work : Exec α} {result : Except ExecError α}
    (h : (withSession database work).Plays events result) :
    (∃ e, events = [⟨.connect database, .error e⟩] ∧ result = .error e) ∨
      ∃ during reply rest,
        events = ⟨.connect database, .ok ()⟩ :: (during ++ ⟨.disconnect, reply⟩ :: rest) ∧
          work.Plays during result ∧ OnlyWarns rest := by
  rcases plays_bind.1 h with ⟨_, before, after, rfl, hb, ha⟩ | ⟨e, hb, rfl⟩
  · obtain rfl := (Run.plays_act (.connect database)).1 hb
    obtain ⟨r, during, after, rfl, hd, hrest⟩ := plays_lift_bind ha
    obtain ⟨_, close, after, rfl, hc, hend⟩ := plays_lift_bind hrest
    obtain ⟨reply, rest, rfl, hw⟩ := Run.plays_disconnect hc
    obtain ⟨rfl, rfl⟩ := hend
    rw [List.append_nil]
    exact .inr ⟨during, reply, rest, rfl, hd, hw⟩
  · exact .inl ⟨e, (Run.plays_act (.connect database)).1 hb, rfl⟩

theorem only_withSession {P : Action → Prop} {database : Option Text} {work : Exec α}
    (hconnect : P (.connect database)) (hclose : P .disconnect) (hwarn : ∀ text, P (.warn text))
    (hwork : work.Only P) : (withSession database work).Only P := by
  intro events result h e he
  rcases plays_withSession h with ⟨_, rfl, -⟩ | ⟨during, reply, rest, rfl, hd, hw⟩
  · rw [List.mem_singleton.1 he]
    exact hconnect
  · rcases List.mem_cons.1 he with rfl | he
    · exact hconnect
    rcases List.mem_append.1 he with he | he
    · exact hwork _ _ hd e he
    rcases List.mem_cons.1 he with rfl | he
    · exact hclose
    · obtain ⟨text, ht⟩ := hw e he
      rw [ht]
      exact hwarn text

end Exec

namespace Batch

/-- The batches that are sent when nothing comes between: those before a command to leave. -/
def sendable (batches : List Text) : List Text := batches.takeWhile (!isExit ·)

theorem sendable_cons {batch : Text} {rest : List Text} (h : isExit batch = false) :
    sendable (batch :: rest) = batch :: sendable rest := by
  rw [sendable, List.takeWhile_cons, h]
  rfl

/-- The batches are sent in order; only a cancelled run stops before the last one. -/
theorem plays_runFrom {observe : Nat → Text → BatchResult → Run Unit}
    (hobs : ∀ index batch result events u, (observe index batch result).Plays events u →
      Quiet events) :
    ∀ {batches : List Text} {index : Nat} {events : List Event}
      {result : Except ExecError (List BatchResult)},
      (runFrom observe index batches).Plays events result →
        (∃ results, result = .ok results ∧ (sent events).map Prod.fst = sendable batches ∧
            (sent events).map Prod.snd = results) ∨
          (result = .error .cancelled ∧ (sent events).map Prod.fst <+: sendable batches)
  | [], _, events, result, h => by
    obtain ⟨rfl, rfl⟩ := h
    exact .inl ⟨[], rfl, rfl, rfl⟩
  | batch :: rest, index, events, result, h => by
    rw [runFrom] at h
    split at h
    · rename_i hexit
      obtain ⟨rfl, rfl⟩ := h
      refine .inl ⟨[], rfl, ?_, rfl⟩
      rw [sendable, List.takeWhile_cons, hexit]
      rfl
    · rename_i hexit
      rw [sendable_cons (by simpa using hexit)]
      obtain ⟨polled, rfl, hp⟩ | ⟨rfl, rfl⟩ := Exec.plays_checkCancelled_bind h
      · obtain ⟨reply, before, after, rfl, hb, hobserve⟩ := Exec.plays_lift_bind hp
        obtain rfl := (Run.plays_act (.batch batch)).1 hb
        obtain ⟨_, shown, after, rfl, hs, hrest⟩ := Exec.plays_lift_bind hobserve
        have hsent : sent (⟨.poll, false⟩ :: (⟨.batch batch, reply⟩ :: (shown ++ after))) =
            (batch, reply) :: sent after := by
          rw [sent_cons, sent_cons, sent_append, (hobs _ _ _ _ _ hs).sent_eq]
          rfl
        rw [List.singleton_append, hsent, List.map_cons, List.map_cons]
        rcases Exec.plays_bind.1 hrest with ⟨results, before, after, rfl, hr, ha⟩ | ⟨e, hr, rfl⟩
        · obtain ⟨rfl, rfl⟩ := ha
          rw [List.append_nil]
          obtain ⟨_, heq, hfst, hsnd⟩ | ⟨hcon, -⟩ := plays_runFrom hobs hr
          · obtain rfl := Except.ok.inj heq
            exact .inl ⟨reply :: results, rfl, by rw [hfst], by rw [hsnd]⟩
          · cases hcon
        · obtain ⟨_, hcon, -⟩ | ⟨heq, hfst⟩ := plays_runFrom hobs hr
          · cases hcon
          · rw [Except.error.inj heq]
            exact .inr ⟨rfl, (List.prefix_cons_inj batch).2 hfst⟩
      · exact .inr ⟨rfl, List.nil_prefix⟩

/-- Only a run that has been cancelled leaves batches out. -/
theorem cancelled_of_runFrom {observe : Nat → Text → BatchResult → Run Unit} :
    ∀ {batches : List Text} {index : Nat} {events : List Event} {e : ExecError},
      (runFrom observe index batches).Plays events (.error e) → ⟨.poll, true⟩ ∈ events
  | [], _, events, e, h => by
    obtain ⟨-, hok⟩ := h
    cases hok
  | batch :: rest, index, events, e, h => by
    rw [runFrom] at h
    split at h
    · obtain ⟨-, hok⟩ := h
      cases hok
    · obtain ⟨polled, rfl, hp⟩ | ⟨rfl, -⟩ := Exec.plays_checkCancelled_bind h
      · obtain ⟨reply, before, after, rfl, -, hobserve⟩ := Exec.plays_lift_bind hp
        obtain ⟨_, shown, after, rfl, -, hrest⟩ := Exec.plays_lift_bind hobserve
        rcases Exec.plays_bind.1 hrest with ⟨results, _, _, rfl, -, ha⟩ | ⟨_, hr, -⟩
        · obtain ⟨-, hok⟩ := ha
          cases hok
        · have hmem := cancelled_of_runFrom hr
          exact List.mem_cons_of_mem _
            (List.mem_append_right _ (List.mem_append_right _ hmem))
      · exact List.mem_cons_self

theorem only_runFrom {P : Action → Prop} {observe : Nat → Text → BatchResult → Run Unit}
    (hobs : ∀ index batch result, (observe index batch result).Only P) (hpoll : P .poll) :
    ∀ (batches : List Text) (index : Nat), (∀ sql ∈ batches, P (.batch sql)) →
      (runFrom observe index batches).Only P
  | [], _, _ => Exec.only_pure []
  | batch :: rest, index, hbatch => by
    rw [runFrom]
    split
    · exact Exec.only_pure []
    · refine (Exec.only_checkCancelled hpoll).bind fun _ => ?_
      refine (Exec.only_lift (Run.only_act (hbatch batch List.mem_cons_self))).bind fun result => ?_
      refine (Exec.only_lift (hobs _ _ _)).bind fun _ => ?_
      have hrest : ∀ sql ∈ rest, P (.batch sql) :=
        fun sql h => hbatch sql (List.mem_cons_of_mem _ h)
      exact (only_runFrom hobs hpoll rest _ hrest).bind fun _ => Exec.only_pure _

/-- The batches of a script are sent in one session, which is closed in the end; nothing else is
asked of the server. -/
theorem plays_runOnce {sql : Text} {database : Option Text} {events : List Event}
    {result : Except ExecError Report} (h : (runOnce sql database).Plays events result) :
    (∃ e, events = [⟨.connect database, .error e⟩] ∧ result = .error e) ∨
      ∃ rest, events = ⟨.connect database, .ok ()⟩ :: rest ∧ ¬ Reported rest ∧
        (requests rest = (sent rest).map fun b => .batch b.1) ∧
        ((∃ report, result = .ok report ∧ (sent rest).map Prod.fst = sendable (split sql) ∧
            report.success = ((sent rest).map Prod.snd).all BatchResult.isOk) ∨
          (result = .error .cancelled ∧ ReadSet rest ∧
            (sent rest).map Prod.fst <+: sendable (split sql))) := by
  rcases Exec.plays_withSession h with ⟨e, rfl, rfl⟩ | ⟨during, reply, rest, rfl, hd, hw⟩
  · exact .inl ⟨e, rfl, rfl⟩
  · have hduring : ∀ e ∈ during, (∀ text, e.action ≠ .print text) ∧
        (e.action.isRequest = true → ∃ sql, e.action = .batch sql) := by
      have honly : Exec.Only (fun a => (∀ text, a ≠ .print text) ∧
          (a.isRequest = true → ∃ sql, a = .batch sql)) (do
            let results ← runFrom (fun _ _ _ => pure ()) 0 (split sql)
            return (⟨results.all BatchResult.isOk, transcript results⟩ : Report)) :=
        (only_runFrom (fun _ _ _ => Run.only_done ()) ⟨by simp, nofun⟩ _ _
          fun sql _ => ⟨by simp, fun _ => ⟨sql, rfl⟩⟩).bind fun _ => Exec.only_pure _
      exact honly _ _ hd
    refine .inr ⟨_, rfl, ?_, requests_eq_sent ?_, ?_⟩
    · rw [reported_append, reported_cons]
      rintro (⟨e, he, message, hm⟩ | ⟨message, hm⟩ | hr)
      · exact (hduring e he).1 _ hm
      · cases hm
      · exact hw.not_reported hr
    · intro e he
      rcases List.mem_append.1 he with he | he
      · exact (hduring e he).2
      rcases List.mem_cons.1 he with rfl | he
      · exact nofun
      · obtain ⟨text, ht⟩ := hw e he
        rw [ht]
        exact nofun
    · have hsent : sent (during ++ ⟨.disconnect, reply⟩ :: rest) = sent during := by
        rw [sent_append, sent_cons, hw.quiet.sent_eq]
        exact List.append_nil _
      rw [hsent]
      have hobs : ∀ (index : Nat) (batch : Text) (result : BatchResult) (events : List Event) u,
          (pure () : Run Unit).Plays events u → Quiet events := by
        rintro _ _ _ _ _ ⟨rfl, -⟩
        exact quiet_nil
      rcases Exec.plays_bind.1 hd with ⟨results, before, after, rfl, hr, ha⟩ | ⟨e, hr, rfl⟩
      · obtain ⟨rfl, rfl⟩ := ha
        rw [List.append_nil]
        obtain ⟨_, heq, hfst, hsnd⟩ | ⟨hcon, -⟩ := plays_runFrom hobs hr
        · obtain rfl := Except.ok.inj heq
          exact .inl ⟨_, rfl, hfst, by rw [hsnd]⟩
        · cases hcon
      · obtain ⟨_, hcon, -⟩ | ⟨heq, hfst⟩ := plays_runFrom hobs hr
        · cases hcon
        · rw [Except.error.inj heq]
          exact .inr ⟨rfl, List.mem_append_left _ (cancelled_of_runFrom hr), hfst⟩

end Batch

end SqlBuild
