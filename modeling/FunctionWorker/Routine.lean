/-
Routines: what a task does, as a tree of the operations it asks for. An operation is answered at
once by whoever runs the routine, a wait suspends the task, and a panic ends it without a value.
Nothing else can happen inside a routine, so its operations are the only places where other tasks
come in between. Every routine is finite.
-/
import FunctionWorker.Function.Error

namespace FunctionWorker

/-- What a task can wait for. -/
inductive Wait where
  /-- That so many milliseconds have passed. -/
  | sleep (ms : Nat)
  /-- That a token is signalled. -/
  | signal (token : Nat)
deriving DecidableEq, Inhabited, Repr

inductive Routine {Op : Type} (Reply : Op → Type) (α : Type) where
  | done (a : α)
  | panic (p : Panic)
  | call (op : Op) (k : Reply op → Routine Reply α)
  | wait (w : Wait) (rest : Routine Reply α)

namespace Routine

variable {Op Op' : Type} {Reply : Op → Type} {Reply' : Op' → Type} {α β σ : Type}

/-- Goes on with the value of a routine. -/
def bind (r : Routine Reply α) (f : α → Routine Reply β) : Routine Reply β :=
  match r with
  | .done a => f a
  | .panic p => .panic p
  | .call op k => .call op fun a => (k a).bind f
  | .wait w rest => .wait w (rest.bind f)

instance : Monad (Routine Reply) where
  pure := .done
  bind := bind

/-- Asks for one operation. -/
def ask (op : Op) : Routine Reply (Reply op) := .call op .done

/-- Suspends the task. -/
def await (w : Wait) : Routine Reply Unit := .wait w (.done ())

/-- Turns a panic into a value. -/
def attempt : Routine Reply α → Routine Reply (Except Panic α)
  | .done a => .done (.ok a)
  | .panic p => .done (.error p)
  | .call op k => .call op fun a => (k a).attempt
  | .wait w rest => .wait w rest.attempt

/-- Replaces every operation by a routine over other operations. -/
def expand (f : (op : Op) → Routine Reply' (Reply op)) : Routine Reply α → Routine Reply' α
  | .done a => .done a
  | .panic p => .panic p
  | .call op k => (f op).bind fun a => (k a).expand f
  | .wait w rest => .wait w (rest.expand f)

/-- Runs a routine by itself, every wait being over at once. -/
def run (perform : (op : Op) → σ → Reply op × σ) : Routine Reply α → σ → Except Panic α × σ
  | .done a, s => (.ok a, s)
  | .panic p, s => (.error p, s)
  | .call op k, s => let (a, s) := perform op s; (k a).run perform s
  | .wait _ rest, s => rest.run perform s

end Routine

end FunctionWorker
