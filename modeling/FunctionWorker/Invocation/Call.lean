/-
The calls that code of functions, converters and middleware can make: on the contexts and tokens
it was given, on the environment, and outside the worker. Each is carried out as a few atomic
operations; a call that changes a context first looks at its state.
-/
import FunctionWorker.Bridge.Outbound
import FunctionWorker.World

namespace FunctionWorker

inductive Call where
  | facts (c : ContextId)
  | state (c : ContextId)
  | describe (c : ContextId)
  | setItem (c : ContextId) (key : String) (value : Datum)
  | item (c : ContextId) (key typeName : String)
  | setOutput (c : ContextId) (name : String) (value : OutputValue)
  | hasOutput (c : ContextId) (name : String)
  | addAttribute (c : ContextId) (name value : String)
  /-- The instance of a service in the scope of a context. A panic of its factory comes to the code
  that asked, which may catch it. -/
  | service (c : ContextId) (type : String)
  | log (c : ContextId) (level : LogLevel) (message : String)
  | isCancelled (token : TokenId)
  | cancel (token : TokenId)
  | environment
  | identity
  | note (n : Note)

namespace Call

def Reply : Call → Type
  | .facts _ => ContextFacts
  | .state _ => ContextState
  | .describe _ => String
  | .setItem _ _ _ | .setOutput _ _ _ => Except ContextError Unit
  | .item _ _ _ => Option Datum
  | .hasOutput _ _ => Bool
  | .addAttribute _ _ _ | .log _ _ _ | .cancel _ | .note _ => Unit
  | .service _ _ => Except ContextError (Except Panic (Option ServiceInstance))
  | .isCancelled _ => Bool
  | .environment => Environment
  | .identity => String

end Call

/-- Code of users, which can make calls, wait and panic. -/
abbrev Code (α : Type) := Routine Call.Reply α

/-- Makes a call. -/
def Code.ask (c : Call) : Code c.Reply := .call c .done

/-- Work of the worker. -/
abbrev Job (α : Type) := Work Op.Reply α

namespace Job

def op (o : Op) : Job o.Reply := Work.own o

def onContext (c : ContextId) (s : ContextStep) : Job s.Reply := op (.onContext c s)

end Job

/-! ## Log records -/

/-- The category of the log records of a function. -/
def logCategory (function : String) : String := "Function." ++ function ++ ".User"

/-- The log record of a function. -/
def userRecord (invocationId function : String) (level : LogLevel) (message : String) :
    LogRecord :=
  ⟨some invocationId, logCategory function, level, message, none, .user⟩

/-- The description of a function's logger. -/
def describeLogger (invocationId function : String) : String :=
  Text.record "InvocationLogger"
    [("invocation_id", Text.quoted invocationId),
      ("category", Text.quoted (logCategory function))] true

/-- Ships a log record; one that the stream does not take any more is dropped. -/
def shipRecord (r : LogRecord) : Job Unit := do
  let now ← Work.now
  let _ ← Work.send (Envelope.make (nanoseconds now) "" (.log r))
  return ()

/-! ## Calls as operations -/

namespace Job

/-- Sets an item of an executing context. -/
def setItem (c : ContextId) (key : String) (value : Datum) :
    Job (Except ContextError Unit) := do
  match (← Job.onContext c .checkExecuting : Except ContextError Unit) with
  | .error e => return .error e
  | .ok () =>
    Job.onContext c (.putItem key value)
    return .ok ()

/-- Sets an output of an executing context under its declared name. -/
def setOutput (c : ContextId) (name : String) (value : OutputValue) :
    Job (Except ContextError Unit) := do
  match (← Job.onContext c .checkExecuting : Except ContextError Unit) with
  | .error e => return .error e
  | .ok () =>
    let facts : ContextFacts ← Job.onContext c .facts
    match facts.definition.outputName name with
    | none => return .error (.undeclaredOutput name)
    | some declared =>
      Job.onContext c (.putOutput declared value)
      return .ok ()

/-- Sets the result of an executing context. -/
def setResult (c : ContextId) (r : HandlerResult) : Job (Except ContextError Unit) := do
  match (← Job.onContext c .checkExecuting : Except ContextError Unit) with
  | .error e => return .error e
  | .ok () =>
    Job.onContext c (.putResult r)
    return .ok ()

/-- The service scope of a context that is not disposed of. -/
def openServices (c : ContextId) : Job (Except ContextError ScopeId) := do
  let state : ContextState ← Job.onContext c .state
  if state = .disposed then return .error .disposed
  let scope : ScopeId ← Job.op (.scopeOf c)
  return .ok scope

/-- Disposes of a context: its scope is disposed of and its items are let go. Tells whether the
context had not been disposed of before. -/
def dispose (c : ContextId) : Job Bool := do
  let first : Bool ← Job.onContext c .markDisposed
  if first then
    let scope : Option ScopeId ← Job.onContext c .takeScope
    match scope with
    | some s => Job.op (.disposeScope s)
    | none => pure ()
    Job.onContext c .clearItems
  return first

end Job

namespace Call

/-- A call as operations. -/
def perform : (call : Call) → Job call.Reply
  | .facts c => Job.onContext c .facts
  | .state c => Job.onContext c .state
  | .describe c => Job.onContext c .describe
  | .setItem c key value => Job.setItem c key value
  | .item c key typeName => Job.onContext c (.item key typeName)
  | .setOutput c name value => Job.setOutput c name value
  | .hasOutput c name => Job.onContext c (.hasOutput name)
  | .addAttribute c name value => Job.onContext c (.addAttribute name value)
  | .service c type => do
    match ← Job.openServices c with
    | .error e => return (.error e : Except ContextError (Except Panic (Option ServiceInstance)))
    | .ok scope =>
      let found : Except Panic (Option ServiceInstance) ← Job.op (.resolve scope type)
      return .ok found
  | .log c level message => do
    let facts : ContextFacts ← Job.onContext c .facts
    shipRecord (userRecord facts.invocationId facts.definition.name level message)
  | .isCancelled token => Job.op (.isSignalled token)
  | .cancel token => Job.op (.signal token)
  | .environment => Job.op .environment
  | .identity => Job.op .identity
  | .note n => Job.op (.note n)

end Call

/-- Code of users as work of the worker. -/
def Code.job {α : Type} (code : Code α) : Job α := Routine.expand Call.perform code

end FunctionWorker
