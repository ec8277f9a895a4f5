import SqlBuild.Bulk.RowStream
import SqlBuild.Run.Error

/-!
# Runs

A run is what happens between the program and its surroundings: it either has a result or does one
action and goes on with the answer. `Run.exec` plays a run against a host, which is any way to
answer actions; what a run does, whatever the answers, can be said about the run itself.

The actions of a run that concern the server speak of the one session that is open at the time.
-/

namespace SqlBuild

/-- What a run asks of its surroundings. -/
inductive Action
  /-- Opens a session, in a database if one is given. -/
  | connect (database : Option Text)
  | batch (sql : Text)
  /-- Calls a procedure for its return code. -/
  | returnCode (call : Text)
  | columns (table : Text)
  | load (table : Text) (columns : List ColumnInfo) (stream : RowStream)
  | unload (table : Text)
  | disconnect
  /-- Looks whether the run has been cancelled. -/
  | poll
  | print (text : Text)
  | warn (text : Text)
deriving DecidableEq, Repr

/-- How a transfer of rows went: how many rows were handed over, and its result. -/
structure Transfer where
  moved : Nat
  result : Except ExecError Nat

/-- The rows of a table as far as they arrived. -/
structure Unloaded where
  rows : List Row
  result : Except ExecError Nat

/-- What comes back for an action. -/
def Action.Reply : Action → Type
  | connect _ => Except ExecError Unit
  | batch _ => BatchResult
  | returnCode _ => Except ExecError Int
  | columns _ => Except ExecError (List ColumnInfo)
  | load .. => Transfer
  | unload _ => Unloaded
  | disconnect => Except ExecError Unit
  | poll => Bool
  | print _ => Except IoError Unit
  | warn _ => Unit

inductive Run (α : Type) : Type
  | done (result : α)
  | ask (action : Action) (next : action.Reply → Run α)

namespace Run

protected def bind {α β : Type} : Run α → (α → Run β) → Run β
  | done a, f => f a
  | ask action next, f => ask action fun reply => (next reply).bind f

instance : Monad Run where
  pure := done
  bind := Run.bind

/-- A single action, for its answer. -/
def act (action : Action) : Run action.Reply := ask action done

@[simp] theorem pure_eq {α : Type} (a : α) : (pure a : Run α) = done a := rfl

@[simp] theorem done_bind {α β : Type} (a : α) (f : α → Run β) : done a >>= f = f a := rfl

@[simp] theorem ask_bind {α β : Type} (action : Action) (next : action.Reply → Run α)
    (f : α → Run β) : ask action next >>= f = ask action fun reply => next reply >>= f := rfl

theorem bind_done {α : Type} (r : Run α) : r >>= done = r := by
  induction r with
  | done a => rfl
  | ask action next ih => simp [ih]

protected theorem bind_assoc {α β γ : Type} (r : Run α) (f : α → Run β) (g : β → Run γ) :
    r >>= f >>= g = r >>= fun a => f a >>= g := by
  induction r with
  | done a => rfl
  | ask action next ih => simp [ih]

instance : LawfulMonad Run := LawfulMonad.mk' Run bind_done (fun _ _ => rfl) Run.bind_assoc

end Run

/-- A way to answer actions, with a state of its own. -/
structure Host (σ : Type) where
  answer : (action : Action) → σ → action.Reply × σ

namespace Run

/-- The result of a run and the state it leaves the host in. -/
def exec {σ α : Type} (host : Host σ) : Run α → σ → α × σ
  | done a, s => (a, s)
  | ask action next, s =>
    let (reply, s') := host.answer action s
    exec host (next reply) s'

@[simp] theorem exec_done {σ α : Type} (host : Host σ) (a : α) (s : σ) :
    (done a).exec host s = (a, s) := rfl

@[simp] theorem exec_ask {σ α : Type} (host : Host σ) (action : Action)
    (next : action.Reply → Run α) (s : σ) :
    (ask action next).exec host s =
      (next (host.answer action s).1).exec host (host.answer action s).2 := rfl

theorem exec_bind {σ α β : Type} (host : Host σ) (r : Run α) (f : α → Run β) (s : σ) :
    (r >>= f).exec host s = (f (r.exec host s).1).exec host (r.exec host s).2 := by
  induction r generalizing s with
  | done a => rfl
  | ask action next ih => simp [ih]

end Run

/-- A run that may end early with an error. -/
abbrev Exec := ExceptT ExecError Run

end SqlBuild
