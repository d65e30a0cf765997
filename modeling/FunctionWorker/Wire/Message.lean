/-
The messages of the stream. The host asks: it greets the worker, lists and loads functions, has
them run, cancels them, replaces the environment and ends the worker. The worker answers each
request with the response paired with it, and ships log records on its own.
-/
import FunctionWorker.Text.Ascii
import FunctionWorker.Wire.Value

namespace FunctionWorker

/-! ## Outcomes -/

inductive Status where
  | failure
  | success
  | cancelled
deriving DecidableEq, Inhabited, Repr

def Status.name : Status → String
  | .failure => "failure"
  | .success => "success"
  | .cancelled => "cancelled"

/-- What the host is told about an error. -/
structure ExceptionRecord where
  message : String := ""
  typeName : String := ""
  source : String := ""
  stackTrace : String := ""
  isUser : Bool := false
deriving DecidableEq, Inhabited, Repr

structure Outcome where
  status : Status
  exception : Option ExceptionRecord
deriving DecidableEq, Inhabited, Repr

namespace Outcome

def success : Outcome := ⟨.success, none⟩
def failure (e : ExceptionRecord) : Outcome := ⟨.failure, some e⟩
def cancelled (e : Option ExceptionRecord) : Outcome := ⟨.cancelled, e⟩

def isSuccess (o : Outcome) : Bool := o.status == .success

end Outcome

/-! ## Functions and their bindings -/

inductive Direction where
  | input
  | output
  | both
deriving DecidableEq, Inhabited, Repr

namespace Direction

def isOutput : Direction → Bool
  | .input => false
  | .output => true
  | .both => true

def name : Direction → String
  | .input => "in"
  | .output => "out"
  | .both => "inout"

end Direction

/-- The declaration of a binding. -/
structure BindingInfo where
  bindingType : String
  direction : Direction
deriving DecidableEq, Inhabited, Repr

/-- Whether a list ends with another. -/
def endsIn (suffix cs : List Char) : Bool := suffix.reverse.isPrefixOf cs.reverse

/-- A binding that starts invocations, told by the end of its type. -/
def BindingInfo.isTrigger (b : BindingInfo) : Bool :=
  endsIn "Trigger".toList b.bindingType.toList || endsIn "trigger".toList b.bindingType.toList

inductive RetryStrategy where
  | fixedDelay (delayMs : UInt64)
  | exponentialBackoff (minimumMs maximumMs : UInt64)
deriving DecidableEq, Inhabited, Repr

/-- How often and when the host tries a failed invocation again. -/
structure RetryPolicy where
  /-- `-1` stands for no limit. -/
  maxRetries : Int32
  strategy : RetryStrategy
deriving DecidableEq, Inhabited, Repr

structure FunctionMetadata where
  functionId : String := ""
  name : String := ""
  entryPoint : String := ""
  scriptFile : String := ""
  directory : String := ""
  language : String := ""
  bindings : List (String × BindingInfo) := []
  /-- The declarations of the bindings as JSON texts. -/
  rawBindings : List String := []
  retry : Option RetryPolicy := none
  isProxy : Bool := false
deriving DecidableEq, Inhabited, Repr

/-- The declaration of a binding, whatever the case of its name. -/
def FunctionMetadata.binding (m : FunctionMetadata) (name : String) : Option BindingInfo :=
  Text.lookup m.bindings name

/-! ## Contexts of an invocation -/

structure TraceContext where
  parent : String := ""
  state : String := ""
  attributes : List (String × String) := []
deriving DecidableEq, Inhabited, Repr

structure RetryContext where
  retryCount : Int32
  maxRetries : Int32
  exception : Option ExceptionRecord
deriving DecidableEq, Inhabited, Repr

/-! ## Log records -/

inductive LogLevel where
  | trace
  | debug
  | information
  | warning
  | error
  | critical
deriving DecidableEq, Inhabited, Repr

/-- Levels by severity. -/
def LogLevel.severity : LogLevel → Nat
  | .trace => 0
  | .debug => 1
  | .information => 2
  | .warning => 3
  | .error => 4
  | .critical => 5

inductive LogCategory where
  | user
  | system
deriving DecidableEq, Inhabited, Repr

structure LogRecord where
  invocationId : Option String
  category : String
  level : LogLevel
  message : String
  exception : Option ExceptionRecord
  origin : LogCategory
deriving DecidableEq, Inhabited, Repr

/-! ## Payloads -/

structure WorkerMetadata where
  runtimeName : String := ""
  runtimeVersion : String := ""
  workerVersion : String := ""
  workerBitness : String := ""
  customProperties : List (String × String) := []
deriving DecidableEq, Inhabited, Repr

structure InitRequest where
  hostVersion : String := ""
  capabilities : List (String × String) := []
  functionAppDirectory : String := ""
deriving DecidableEq, Inhabited, Repr

structure InitResponse where
  workerVersion : String
  capabilities : List (String × String)
  workerMetadata : WorkerMetadata
  result : Outcome
deriving DecidableEq, Inhabited, Repr

structure MetadataResponse where
  functions : List FunctionMetadata
  useDefaultIndexing : Bool
  result : Outcome
deriving DecidableEq, Inhabited, Repr

structure LoadRequest where
  functionId : String
  metadata : FunctionMetadata
deriving DecidableEq, Inhabited, Repr

structure LoadResponse where
  functionId : String
  result : Outcome
deriving DecidableEq, Inhabited, Repr

structure InvocationRequest where
  invocationId : String
  functionId : String
  inputs : List NamedValue := []
  triggerMetadata : List (String × WireValue) := []
  traceContext : Option TraceContext := none
  retryContext : Option RetryContext := none
deriving DecidableEq, Inhabited, Repr

structure InvocationResponse where
  invocationId : String
  outputs : List NamedValue
  returnValue : Option WireValue
  result : Outcome
  traceContext : Option TraceContext
  retryContext : Option RetryContext
deriving DecidableEq, Inhabited, Repr

/-- The output of exactly this name. -/
def InvocationResponse.output (r : InvocationResponse) (name : String) : Option WireValue :=
  (r.outputs.find? (fun b => b.name == name)).map (·.value)

structure InvocationCancel where
  invocationId : String
  gracePeriodMs : Option UInt64
deriving DecidableEq, Inhabited, Repr

structure ReloadRequest where
  vars : List (String × String) := []
  functionAppDirectory : String := ""
deriving DecidableEq, Inhabited, Repr

structure ReloadResponse where
  workerMetadata : WorkerMetadata
  capabilities : List (String × String)
  result : Outcome
deriving DecidableEq, Inhabited, Repr

inductive Message where
  | startStream (workerId : String)
  | initRequest (r : InitRequest)
  | initResponse (r : InitResponse)
  | statusRequest
  | statusResponse
  | metadataRequest (functionAppDirectory : String)
  | metadataResponse (r : MetadataResponse)
  | loadRequest (r : LoadRequest)
  | loadResponse (r : LoadResponse)
  | invocationRequest (r : InvocationRequest)
  | invocationResponse (r : InvocationResponse)
  | invocationCancel (r : InvocationCancel)
  | reloadRequest (r : ReloadRequest)
  | reloadResponse (r : ReloadResponse)
  | terminate (gracePeriodMs : UInt64)
  | log (r : LogRecord)
deriving DecidableEq, Inhabited, Repr

namespace Message

/-- The name of a message's kind. -/
def kind : Message → String
  | .startStream _ => "start_stream"
  | .initRequest _ => "worker_init_request"
  | .initResponse _ => "worker_init_response"
  | .statusRequest => "worker_status_request"
  | .statusResponse => "worker_status_response"
  | .metadataRequest _ => "functions_metadata_request"
  | .metadataResponse _ => "function_metadata_response"
  | .loadRequest _ => "function_load_request"
  | .loadResponse _ => "function_load_response"
  | .invocationRequest _ => "invocation_request"
  | .invocationResponse _ => "invocation_response"
  | .invocationCancel _ => "invocation_cancel"
  | .reloadRequest _ => "function_environment_reload_request"
  | .reloadResponse _ => "function_environment_reload_response"
  | .terminate _ => "worker_terminate"
  | .log _ => "rpc_log"

/-- Whether the message is one that the host sends. -/
def isRequest : Message → Bool
  | .initRequest _ | .statusRequest | .metadataRequest _ | .loadRequest _ | .invocationRequest _
  | .invocationCancel _ | .reloadRequest _ | .terminate _ => true
  | _ => false

def isLog : Message → Bool
  | .log _ => true
  | _ => false

/-- The outcome that a response carries. -/
def result : Message → Option Outcome
  | .initResponse r => some r.result
  | .metadataResponse r => some r.result
  | .loadResponse r => some r.result
  | .invocationResponse r => some r.result
  | .reloadResponse r => some r.result
  | _ => none

end Message

end FunctionWorker
