/-
Envelopes: a message with the version of the protocol, the id by which a response is matched to
its request, and the time it was made. What a worker notes about a request before it processes it
is its summary.
-/
import FunctionWorker.Wire.Message

namespace FunctionWorker

namespace Protocol

/-- The version that is spoken, and the oldest one that is understood. -/
def version : UInt16 := 1
def oldestVersion : UInt16 := 1

def isSupported (v : UInt16) : Bool := oldestVersion ≤ v && v ≤ version

end Protocol

/-- The output that carries what a function returns. -/
def returnBinding : String := "$return"

structure Header where
  version : UInt16
  requestId : String
  /-- Nanoseconds since the epoch. -/
  timestampNs : UInt64
deriving DecidableEq, Inhabited, Repr

def Header.isCompatible (h : Header) : Bool := Protocol.isSupported h.version

structure Envelope where
  header : Header
  payload : Message
deriving DecidableEq, Inhabited, Repr

namespace Envelope

/-- An envelope of the current version. -/
def make (now : UInt64) (requestId : String) (payload : Message) : Envelope :=
  ⟨⟨Protocol.version, requestId, now⟩, payload⟩

/-- The envelope that answers a request. -/
def reply (now : UInt64) (request : Header) (payload : Message) : Envelope :=
  make now request.requestId payload

end Envelope

/-- What is known about a request before it is processed. -/
structure RequestSummary where
  header : Header
  kind : String
  invocationId : Option String
  functionId : Option String
deriving DecidableEq, Inhabited, Repr

def RequestSummary.of (e : Envelope) : RequestSummary :=
  let (invocationId, functionId) :=
    match e.payload with
    | .invocationRequest r => (some r.invocationId, some r.functionId)
    | .loadRequest r => (none, some r.functionId)
    | .invocationCancel r => (some r.invocationId, none)
    | _ => (none, none)
  ⟨e.header, e.payload.kind, invocationId, functionId⟩

end FunctionWorker
