/-
The context of an invocation. What the request and the definition say is fixed; the state, the
items, the outputs, the result, the trace attributes and the slot of the service scope are changed
by small steps, each of which is atomic. A call on a context is one or several of these steps, and
steps of other calls may come in between.
-/
import FunctionWorker.Context.State
import FunctionWorker.Entries
import FunctionWorker.Function.Definition

namespace FunctionWorker

/-- Service scopes by the order in which they were opened. -/
abbrev ScopeId := Nat

/-- What does not change during an invocation. -/
structure ContextFacts where
  invocationId : String
  definition : Definition
  inputs : List NamedValue := []
  triggerMetadata : List (String × WireValue) := []
  traceContext : Option TraceContext := none
  retryContext : Option RetryContext := none
  token : TokenId
deriving Inhabited

namespace ContextFacts

/-- The trigger metadata under a name, whatever its case. -/
def trigger (f : ContextFacts) (name : String) : Option WireValue :=
  Text.lookup f.triggerMetadata name

/-- The source of a parameter: the first input of the name, or else the trigger metadata. -/
def source (f : ContextFacts) (name : String) : Option WireValue :=
  match f.inputs.find? (Text.sameName ·.name name) with
  | some v => some v.value
  | none => f.trigger name

end ContextFacts

structure Context where
  facts : ContextFacts
  state : ContextState := .created
  items : List (String × Datum) := []
  outputs : List (String × OutputValue) := []
  result : Option HandlerResult := none
  attributes : List (String × String) := []
  scope : Option ScopeId := none
deriving Inhabited

namespace Context

/-! ## The state -/

/-- Refuses to go on unless the context is executing. -/
def checkExecuting (c : Context) : Except ContextError Unit :=
  match c.state with
  | .executing => .ok ()
  | .disposed => .error .disposed
  | s => .error (.notExecuting s)

/-- Moves from one of the given states to another. -/
def move (sources : List ContextState) (target : ContextState) (c : Context) :
    Except ContextError Unit × Context :=
  if sources.contains c.state then (.ok (), { c with state := target })
  else (.error (.invalidTransition c.state target), c)

def begin (c : Context) : Except ContextError Unit × Context := c.move [.created] .executing

def complete (c : Context) : Except ContextError Unit × Context :=
  c.move [.executing] .resultSet

def fault (c : Context) : Except ContextError Unit × Context :=
  c.move [.created, .executing] .faulted

/-- Marks the context as disposed of; tells whether it had not been before. -/
def markDisposed (c : Context) : Bool × Context :=
  if c.state = .disposed then (false, c) else (true, { c with state := .disposed })

/-! ## Items -/

def putItem (c : Context) (key : String) (value : Datum) : Context :=
  { c with items := Entries.put key value c.items }

/-- The item under a key, if it is of the named type. -/
def item (c : Context) (key typeName : String) : Option Datum :=
  (c.items.lookup key).filter (·.typeName = typeName)

def clearItems (c : Context) : Context := { c with items := [] }

/-! ## Outputs and result -/

/-- Sets an output under its declared name. -/
def putOutput (c : Context) (name : String) (value : OutputValue) : Context :=
  { c with outputs := Entries.put name value c.outputs }

def hasOutput (c : Context) (name : String) : Bool :=
  c.outputs.any (Text.sameName ·.1 name)

def takeOutputs (c : Context) : List (String × OutputValue) × Context :=
  (c.outputs, { c with outputs := [] })

def putResult (c : Context) (r : HandlerResult) : Context := { c with result := some r }

def takeResult (c : Context) : Option HandlerResult × Context :=
  (c.result, { c with result := none })

/-! ## Trace attributes and the scope -/

def addAttribute (c : Context) (name value : String) : Context :=
  { c with attributes := c.attributes ++ [(name, value)] }

def takeScope (c : Context) : Option ScopeId × Context := (c.scope, { c with scope := none })

/-- The description of a context. -/
def describe (c : Context) : String :=
  Text.record "FunctionContext"
    [("invocation_id", Text.quoted c.facts.invocationId),
      ("function", Text.quoted c.facts.definition.name), ("state", c.state.title)] true

end Context

end FunctionWorker
