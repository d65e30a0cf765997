/-
The way of an invocation through its middleware to the function and back. Each step either stops
or lets the rest run and then has the last word on the result. Behind the middleware stand the
binding of the parameters, the call of the function, and the routing of its result to outputs.
-/
import FunctionWorker.Conversion.Chain
import FunctionWorker.Function.Arguments
import FunctionWorker.Invocation.Error

namespace FunctionWorker

/-- The code of a function. -/
abbrev Handler := Arguments → Code (Except FunctionError HandlerResult)

/-- How an invocation stands. -/
abbrev Passage := Except InvocationError Unit

/-- What a middleware decides before the rest of the pipeline. -/
inductive Decision where
  /-- The rest is not run. -/
  | stop (result : Passage)
  /-- The rest is run once, and its result goes through `after`. -/
  | proceed (after : Passage → Code Passage)

/-- A middleware, which is told the context and how many steps come after it. -/
abbrev Middleware := ContextId → Nat → Code Decision

structure Pipeline where
  handlers : HandlerId → Handler
  middleware : List Middleware := []
  converters : ConverterChain := .standard

namespace Pipeline

/-! ## Binding -/

/-- The source of a parameter: parameters for outputs and contexts have none. -/
def sourceOf (facts : ContextFacts) (p : Parameter) : Option WireValue :=
  match p.role with
  | .input | .trigger => facts.source p.name
  | .output | .context => none

/-- The value that needs no converter: the invocation's own context or token. -/
def own? (c : ContextId) (facts : ContextFacts) (p : Parameter) : Option Datum :=
  match p.role, p.type.shape with
  | .context, .context => some (.context c)
  | .context, .cancellation => some (.token facts.token)
  | _, _ => none

/-- The value of a parameter. -/
def bindParameter (chain : ConverterChain) (c : ContextId) (facts : ContextFacts)
    (p : Parameter) : Job (Except ConversionError Datum) := do
  match own? c facts p with
  | some d => return .ok d
  | none =>
    let r ← chain.convert ⟨p, sourceOf facts p, c, facts.token⟩
    return r.map (·.value)

/-- The values of parameters in order, up to the first that cannot be bound. -/
def bindAll (chain : ConverterChain) (c : ContextId) (facts : ContextFacts) :
    List Parameter → Job (Except ConversionError (List (String × Datum)))
  | [] => return .ok []
  | p :: ps => do
    match ← bindParameter chain c facts p with
    | .error e => return .error e
    | .ok d =>
      let rest ← bindAll chain c facts ps
      return rest.map ((p.name, d) :: ·)

/-! ## The function -/

/-- Binds the parameters and calls the function, unless the invocation is cancelled by then. -/
def execute (p : Pipeline) (c : ContextId) : Job Passage := do
  let facts : ContextFacts ← Job.onContext c .facts
  match ← bindAll p.converters c facts facts.definition.parameters with
  | .error e => return .error (.conversion e)
  | .ok bound =>
    let cancelled : Bool ← Job.op (.isSignalled facts.token)
    if cancelled then return .error .cancelled
    match ← Code.job (p.handlers facts.definition.handler (.ofList bound)) with
    | .error e => return .error (.ofFunction e)
    | .ok result =>
      let stored ← Job.setResult c result
      return stored.mapError .context

/-! ## Routing -/

/-- Sets named outputs in order, up to the first that is refused. -/
def route (c : ContextId) : List (String × OutputValue) → Job Passage
  | [] => return .ok ()
  | (name, v) :: rest => do
    match ← Job.setOutput c name v with
    | .error e => return .error (.context e)
    | .ok () => route c rest

/-- Routes the result of the function: first its named outputs, then the value it returned, which
is dropped if no output is declared for it. -/
def routeResult (c : ContextId) : Job Passage := do
  let result : Option HandlerResult ← Job.onContext c .takeResult
  match result with
  | none => return .ok ()
  | some r =>
    match ← route c r.outputs with
    | .error e => return .error e
    | .ok () =>
      let facts : ContextFacts ← Job.onContext c .facts
      match r.returned with
      | some v =>
        if facts.definition.hasReturnValue then route c [(returnBinding, v)] else return .ok ()
      | none => return .ok ()

/-- The function with the routing of its result. -/
def core (p : Pipeline) (c : ContextId) : Job Passage := do
  match ← p.execute c with
  | .error e => return .error e
  | .ok () => routeResult c

/-! ## Middleware -/

/-- Runs the remaining middleware around a core. Behind them comes the routing step. -/
def runWith (core : Job Passage) (c : ContextId) : List Middleware → Job Passage
  | [] => core
  | m :: rest => do
    match ← Code.job (m c (rest.length + 1)) with
    | .stop result => return result
    | .proceed after =>
      let result ← runWith core c rest
      Code.job (after result)

def run (p : Pipeline) (c : ContextId) : Job Passage := runWith (p.core c) c p.middleware

/-- The steps of a pipeline: its middleware and the routing. -/
def size (p : Pipeline) : Nat := p.middleware.length + 1

/-- The description of a pipeline. -/
def describe (p : Pipeline) : String :=
  let terminal := Text.record "FunctionExecution" [("converters", p.converters.describe)] false
  Text.record "Pipeline" [("steps", toString p.size), ("terminal", terminal)] false

end Pipeline

end FunctionWorker
