/-
An invocation from its request to its response. While it runs it is registered under its id, so
that it can be cancelled. Whatever happens inside, there is one response; when it is ready the
registration is taken out and the context is disposed of.
-/
import FunctionWorker.Invocation.Outputs
import FunctionWorker.Invocation.Pipeline

namespace FunctionWorker

/-- What carries out invocations. -/
structure Invoker where
  pipeline : Pipeline
  serializers : List Serializer := []
  /-- Whether the host is shown the errors of function code. -/
  showUserErrors : Bool := true

namespace Invoker

/-- The trace context of a response: the one of the request with the attributes that were added. -/
def echoTrace (trace : Option TraceContext) (attributes : List (String × String)) :
    Option TraceContext :=
  if attributes.isEmpty then trace
  else
    let t := trace.getD {}
    some { t with attributes := t.attributes ++ attributes }

/-- The response to a request that fails before anything is run. -/
def refusal (request : InvocationRequest) (e : ExceptionRecord) : InvocationResponse :=
  ⟨request.invocationId, [], none, .failure e, request.traceContext, request.retryContext⟩

/-- Runs the pipeline, in which a panic is an error as well. -/
def execute (v : Invoker) (c : ContextId) (token : TokenId) : Job Passage := do
  match (← Job.onContext c .begin : Except ContextError Unit) with
  | .error e => return .error (.context e)
  | .ok () =>
    let cancelled : Bool ← Job.op (.isSignalled token)
    if cancelled then return .error .cancelled
    match ← (v.pipeline.run c).attempt with
    | .ok result => return result
    | .error p => return .error (.panicked p.message)

/-- The outputs of an invocation whose pipeline ended well. -/
def collect (v : Invoker) (c : ContextId) (d : Definition) :
    Job (Except InvocationError SerializedOutputs) := do
  let _ : Except ContextError Unit ← Job.onContext c .complete
  let produced : List (String × OutputValue) ← Job.onContext c .takeOutputs
  match SerializedOutputs.collect v.serializers d.outputs produced with
  | .ok s => return .ok s
  | .error p => return .error (.panicked p.message)

/-- The outcome of an invocation that failed. An error counts as a cancellation if it says so, or if
the invocation was cancelled and function code is not to blame. -/
def classify (v : Invoker) (cancelled : Bool) (e : InvocationError) : Outcome :=
  if e.isCancellation || (cancelled && !e.isUserFault) then .cancelled none
  else .failure (e.exception v.showUserErrors)

/-- Finishes an invocation: what it produced, or why it failed. -/
def settle (v : Invoker) (c : ContextId) (d : Definition) :
    Passage → Job (Except InvocationError SerializedOutputs)
  | .ok () => v.collect c d
  | .error e => do
    let _ : Except ContextError Unit ← Job.onContext c .fault
    return .error e

/-- Carries out a request for a loaded function. -/
def invokeLoaded (v : Invoker) (request : InvocationRequest) (d : Definition) :
    Job InvocationResponse := do
  let token : TokenId ← Job.op .drawToken
  let registration : Registration := ⟨request.invocationId, token⟩
  Job.op (.insertRegistration registration)
  let facts : ContextFacts :=
    ⟨request.invocationId, d, request.inputs, request.triggerMetadata, request.traceContext,
      request.retryContext, token⟩
  let c : ContextId ← Job.op (.newContext facts)
  let passage ← v.execute c token
  let attributes : List (String × String) ← Job.onContext c .attributes
  let trace := echoTrace request.traceContext attributes
  let settled ← v.settle c d passage
  let response ←
    match settled with
    | .ok s =>
      pure (⟨request.invocationId, s.outputs, s.returned, .success, trace,
        request.retryContext⟩ : InvocationResponse)
    | .error e => do
      let cancelled : Bool ← Job.op (.isSignalled token)
      pure ⟨request.invocationId, [], none, v.classify cancelled e, trace, request.retryContext⟩
  Job.op (.removeRegistration registration)
  let _ ← Job.dispose c
  return response

/-- Carries out a request. -/
def invoke (v : Invoker) (request : InvocationRequest) : Job InvocationResponse := do
  let found : Option Definition ← Job.op (.findFunction request.functionId)
  match found with
  | none =>
    return refusal request
      ((InvocationError.functionNotFound request.functionId).exception v.showUserErrors)
  | some d => v.invokeLoaded request d

/-- The description of an invoker in a world. -/
def describe (v : Invoker) (w : World) : String :=
  Text.record "InvocationHandler"
    [("functions", toString w.functions.size),
      ("in_flight", toString w.cancellations.entries.length),
      ("enable_user_code_exception", toString v.showUserErrors)] true

end Invoker

end FunctionWorker
