/-
What the tasks of a stream can do besides the operations of the messages' processor: read the
clock, look at the shutdown flag, push an envelope on the outbound queue, shut the stream down,
and have the stream shut down once the processor is idle or a time has passed. To send an envelope
is to look at the flag and then to push, in two steps.
-/
import FunctionWorker.Routine
import FunctionWorker.Wire.Envelope

namespace FunctionWorker

inductive Effect (Op : Type) where
  /-- An operation of the processor. -/
  | own (op : Op)
  /-- The clock, in milliseconds. -/
  | now
  | isClosed
  /-- Appends to the queue; the answer says whether there still is a receiver. -/
  | push (e : Envelope)
  | close
  /-- Starts a task that closes the stream when the processor is idle or the time has passed. -/
  | watch (graceMs : Nat)

namespace Effect

def Reply {Op : Type} (R : Op → Type) : Effect Op → Type
  | .own op => R op
  | .now => Nat
  | .isClosed => Bool
  | .push _ => Bool
  | .close => Unit
  | .watch _ => Unit

end Effect

/-- Work on a stream: routines over the operations of a processor and the effects of the stream. -/
abbrev Work {Op : Type} (R : Op → Type) (α : Type) := Routine (Effect.Reply R) α

namespace Work

variable {Op : Type} {R : Op → Type}

def own (op : Op) : Work R (R op) := .call (.own op) .done

def now : Work R Nat := .call .now .done

def close : Work R Unit := .call .close .done

def watch (graceMs : Nat) : Work R Unit := .call (.watch graceMs) .done

/-- Sends an envelope; the answer says whether the queue took it. -/
def send (e : Envelope) : Work R Bool :=
  .call .isClosed fun (closed : Bool) => if closed then .done false else .call (.push e) .done

end Work

/-- A time in milliseconds as the time of an envelope. -/
def nanoseconds (ms : Nat) : UInt64 := UInt64.ofNat (ms * 1000000)

end FunctionWorker
