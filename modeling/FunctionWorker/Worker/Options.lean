/-
The options of a worker and the limits on them.
-/
import FunctionWorker.Frame.Header

namespace FunctionWorker

structure WorkerOptions where
  host : String := "127.0.0.1"
  tcpPort : UInt16 := 7071
  workerId : String
  requestId : String := ""
  maxMessageLength : Nat := Frame.defaultLimit
  showUserErrors : Bool := true
  /-- The capabilities by name, in the order of the names. -/
  capabilities : List (String × String) := []
  functionAppDirectory : Option String := none
deriving DecidableEq, Inhabited, Repr

namespace WorkerOptions

/-- Why options are refused, if they are. -/
def fault (o : WorkerOptions) : Option String :=
  if o.host = "" then some "host must not be empty"
  else if o.tcpPort = 0 then some "port must not be zero"
  else if o.maxMessageLength = 0 then some "max_message_length must be positive"
  else if Frame.maxPayload < o.maxMessageLength then
    some s!"max_message_length must not exceed {Frame.maxPayload}"
  else if o.workerId = "" then some "worker_id must not be empty"
  else none

def address (o : WorkerOptions) : String := s!"{o.host}:{o.tcpPort.toNat}"

end WorkerOptions

end FunctionWorker
