/-
The worker: what it does about each message of the host. It greets the host when the stream opens,
is ready once it is initialised, and serves metadata, load and invocation requests only then.
Cancellation, reloading and termination are served in every state. Termination closes the worker
at once and the stream when the invocations in flight are done or their time is up.
-/
import FunctionWorker.Invocation.Invoke
import FunctionWorker.Worker.MetadataFile
import FunctionWorker.Worker.Options

namespace FunctionWorker

/-! ## Parts of a worker -/

/-- Lists the functions of a directory. -/
abbrev MetadataProvider := String → Code (Except MetadataError (List FunctionMetadata))

/-- Takes over new variables and perhaps a directory. -/
abbrev Reloader := List (String × String) → Option String → Code (Except WorkerError Unit)

structure Worker where
  options : WorkerOptions
  catalog : Catalog := {}
  invoker : Invoker
  /-- The catalog lists its entries where there is no provider. -/
  provider : Option MetadataProvider := none
  /-- The environment is replaced where there is no reloader. -/
  reloader : Option Reloader := none

namespace Worker

def version : String := "0.1.0"

/-- What the worker tells about itself. -/
def metadata (w : Worker) : WorkerMetadata :=
  { runtimeName := language, runtimeVersion := "1.80", workerVersion := version,
    workerBitness := "x64", customProperties := [("worker_id", w.options.workerId)] }

/-- What every worker can do. -/
def requiredCapabilities : List String :=
  ["RpcHttpBodyOnly", "RawHttpBodyBytes", "TypedDataCollection", "WorkerStatus",
    "HandlesWorkerTerminateMessage", "HandlesInvocationCancelMessage"]

/-- Puts an entry at its place in a list ordered by keys. -/
def insertSorted (key value : String) : List (String × String) → List (String × String)
  | [] => [(key, value)]
  | (k, v) :: rest =>
    if key < k then (key, value) :: (k, v) :: rest
    else if k = key then (key, value) :: rest
    else (k, v) :: insertSorted key value rest

/-- The capabilities of the options and those that every worker has. -/
def capabilities (w : Worker) : List (String × String) :=
  requiredCapabilities.foldl (fun acc n => insertSorted n "true" acc) w.options.capabilities

/-- The world of a worker that has just been built. -/
def world (w : Worker) (services : ServiceRegistrations) : World :=
  { services := { registrations := services }, directory := w.options.functionAppDirectory }

/-! ## Answers -/

/-- The outcome of a request that has no other result. -/
def outcome {α : Type} : Except WorkerError α → Outcome
  | .ok _ => .success
  | .error e => .failure e.exception

/-- Refuses to go on unless the worker is ready. -/
def ensureReady : Job (Except WorkerError Unit) := do
  let state : WorkerState ← Job.op .state
  if state = .ready then return .ok () else return .error (.notReady state.name)

/-- The directory that a request is about. -/
def directoryFor (requested : String) : Job String := do
  if requested ≠ "" then return requested
  let d : Option String ← Job.op .directory
  return d.getD "."

/-! ## Requests -/

def init (w : Worker) (r : InitRequest) : Job Message := do
  let result : Except WorkerState Unit ← Job.op .initialise
  match result with
  | .ok () => if r.functionAppDirectory ≠ "" then Job.op (.setDirectory r.functionAppDirectory)
  | .error _ => pure ()
  return .initResponse ⟨version, w.capabilities, w.metadata,
    outcome (result.mapError fun s => .notReady s.name)⟩

/-- The functions of a directory as the provider lists them, each with a binding. -/
def listFunctions (w : Worker) (directory : String) :
    Job (Except WorkerError (List FunctionMetadata)) := do
  let listed ←
    match w.provider with
    | some provide => Code.job (provide directory)
    | none => Except.ok <$> Code.job (Catalog.metadata directory w.catalog.entries)
  match listed with
  | .error e => return .error (.metadata e)
  | .ok functions =>
    match MetadataFile.validate functions with
    | .error e => return .error (.metadata e)
    | .ok () => return .ok functions

def functionMetadata (w : Worker) (requested : String) : Job Message := do
  let result : Except WorkerError (List FunctionMetadata) ←
    match ← ensureReady with
    | .error e => pure (.error e)
    | .ok () => do
      let directory ← directoryFor requested
      w.listFunctions directory
  match result with
  | .ok functions => return .metadataResponse ⟨functions, false, .success⟩
  | .error e => return .metadataResponse ⟨[], false, .failure e.exception⟩

/-- Makes a definition of a load request and puts it into the table. -/
def loadDefinition (w : Worker) (r : LoadRequest) : Job (Except WorkerError Unit) := do
  match ← ensureReady with
  | .error e => return .error e
  | .ok () =>
    match w.catalog.instantiate r with
    | .error e => return .error e
    | .ok d =>
      let inserted : Bool ← Job.op (.insertFunction d)
      if inserted then return .ok () else return .error (.duplicateFunction d.id)

def load (w : Worker) (r : LoadRequest) : Job Message := do
  let result ← w.loadDefinition r
  return .loadResponse ⟨r.functionId, outcome result⟩

def invoke (w : Worker) (r : InvocationRequest) : Job Message := do
  match ← ensureReady with
  | .error e => return .invocationResponse (Invoker.refusal r e.exception)
  | .ok () =>
    let response ← w.invoker.invoke r
    return .invocationResponse response

/-- Has the variables replaced. -/
def replaceVariables (w : Worker) (vars : List (String × String))
    (directory : Option String) : Job (Except WorkerError Unit) := do
  match w.reloader with
  | some reload => Code.job (reload vars directory)
  | none =>
    let result : Except String Unit ← Job.op (.reload vars directory)
    return result.mapError .reload

def reload (w : Worker) (r : ReloadRequest) : Job Message := do
  let directory := if r.functionAppDirectory = "" then none else some r.functionAppDirectory
  let result ← w.replaceVariables r.vars directory
  match result, directory with
  | .ok (), some d => Job.op (.setDirectory d)
  | _, _ => pure ()
  return .reloadResponse ⟨w.metadata, w.capabilities, outcome result⟩

def terminate (graceMs : UInt64) : Job Unit := do
  Job.op .closeState
  Work.watch graceMs.toNat

/-! ## The processor -/

/-- What the worker answers to a message; messages that hosts do not send have no answer. -/
def answer (w : Worker) : Message → Job (Option Message)
  | .initRequest r => some <$> w.init r
  | .statusRequest => do
    let state : WorkerState ← Job.op .state
    return if state = .closed then none else some .statusResponse
  | .metadataRequest d => some <$> w.functionMetadata d
  | .loadRequest r => some <$> w.load r
  | .invocationRequest r => some <$> w.invoke r
  | .invocationCancel r => do
    let _ : CancelOutcome ← Job.op (.tryCancel r.invocationId)
    return none
  | .reloadRequest r => some <$> w.reload r
  | .terminate graceMs => do
    terminate graceMs
    return none
  | _ => return none

/-- Processes an envelope. -/
def process (w : Worker) (e : Envelope) : Job (Option Envelope) := do
  match ← w.answer e.payload with
  | none => return none
  | some m =>
    let now ← Work.now
    return some (Envelope.reply (nanoseconds now) e.header m)

/-- Opens the stream with a greeting. -/
def start (w : Worker) : Job (Option Envelope) := do
  Job.op .openState
  let now ← Work.now
  return some (Envelope.make (nanoseconds now) w.options.requestId
    (.startStream w.options.workerId))

/-- The answer to a request whose processing panicked. -/
def failureAnswer (w : Worker) (s : RequestSummary) (text : String) : Option Message :=
  let failure : Outcome :=
    .failure { typeName := "panic", message := text, source := workerSource }
  match s.kind with
  | "invocation_request" =>
    some (.invocationResponse ⟨s.invocationId.getD "", [], none,
      .failure ((InvocationError.panicked text).exception w.options.showUserErrors), none, none⟩)
  | "function_load_request" => some (.loadResponse ⟨s.functionId.getD "", failure⟩)
  | "worker_init_request" =>
    some (.initResponse ⟨version, w.capabilities, w.metadata, failure⟩)
  | "functions_metadata_request" => some (.metadataResponse ⟨[], false, failure⟩)
  | "function_environment_reload_request" =>
    some (.reloadResponse ⟨w.metadata, w.capabilities, failure⟩)
  | _ => none

def failureResponse (w : Worker) (nowMs : Nat) (s : RequestSummary) (text : String) :
    Option Envelope :=
  (w.failureAnswer s text).map (Envelope.reply (nanoseconds nowMs) s.header)

/-- The description of a worker in a world. -/
def describe (w : Worker) (world : World) : String :=
  Text.record "Worker"
    [("worker_id", Text.quoted w.options.workerId), ("state", world.state.title),
      ("functions", toString world.functions.size)] true

end Worker

end FunctionWorker
