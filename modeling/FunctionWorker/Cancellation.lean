/-
The invocations in flight, each with the token by which it is cancelled. To register an invocation
is two steps: a generation is drawn, which is the number of a new token, and the entry is put in
under the invocation's id, where it replaces an earlier one of that id. A registration that has
been replaced is not the one that its id stands for any more, and to remove it changes nothing.
-/
import FunctionWorker.Context.Cell

namespace FunctionWorker

structure Registration where
  invocationId : String
  token : TokenId
deriving DecidableEq, Inhabited, Repr

inductive CancelOutcome where
  | signalled
  | notFound
deriving DecidableEq, Inhabited, Repr

structure CancellationRegistry where
  entries : List (String × TokenId) := []
  /-- The tokens by number, and whether each is signalled. -/
  tokens : List Bool := []
deriving DecidableEq, Inhabited, Repr

namespace CancellationRegistry

/-- Makes a token. -/
def draw (r : CancellationRegistry) : TokenId × CancellationRegistry :=
  (r.tokens.length, { r with tokens := r.tokens ++ [false] })

/-- Puts in an entry. -/
def insert (r : CancellationRegistry) (reg : Registration) : CancellationRegistry :=
  { r with entries := Entries.put reg.invocationId reg.token r.entries }

/-- Registers an invocation. -/
def register (r : CancellationRegistry) (invocationId : String) :
    Registration × CancellationRegistry :=
  let (token, r) := r.draw
  (⟨invocationId, token⟩, r.insert ⟨invocationId, token⟩)

/-- Takes out the entry of a registration, unless it has been replaced. -/
def remove (r : CancellationRegistry) (reg : Registration) : CancellationRegistry :=
  { r with entries := r.entries.filter fun e => e ≠ (reg.invocationId, reg.token) }

/-- The token under an id. -/
def find? (r : CancellationRegistry) (invocationId : String) : Option TokenId :=
  r.entries.lookup invocationId

def contains (r : CancellationRegistry) (invocationId : String) : Bool :=
  (r.find? invocationId).isSome

def isEmpty (r : CancellationRegistry) : Bool := r.entries.isEmpty

def isSignalled (r : CancellationRegistry) (token : TokenId) : Bool := r.tokens.getD token false

/-- Signals a token. -/
def signal (r : CancellationRegistry) (token : TokenId) : CancellationRegistry :=
  { r with tokens := r.tokens.set token true }

/-- Signals the token under an id. -/
def tryCancel (r : CancellationRegistry) (invocationId : String) :
    CancelOutcome × CancellationRegistry :=
  match r.find? invocationId with
  | some token => (.signalled, r.signal token)
  | none => (.notFound, r)

end CancellationRegistry

end FunctionWorker
