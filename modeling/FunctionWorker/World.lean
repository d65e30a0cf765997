/-
Everything that the invocations of a worker share: contexts, tokens and registrations, services,
the environment, the loaded functions, the state of the worker, its directory, the supply of
identities, and the journal of what function code does outside the worker. Each operation is
atomic.
-/
import FunctionWorker.Cancellation
import FunctionWorker.Context.Step
import FunctionWorker.Environment
import FunctionWorker.Function.Table
import FunctionWorker.Services

namespace FunctionWorker

/-! ## The state of a worker -/

inductive WorkerState where
  | unstarted
  | handshaking
  | ready
  | closed
deriving DecidableEq, Inhabited, Repr

namespace WorkerState

def all : List WorkerState := [.unstarted, .handshaking, .ready, .closed]

/-- The name of a state in error texts. -/
def name : WorkerState → String
  | .unstarted => "unstarted"
  | .handshaking => "handshaking"
  | .ready => "ready"
  | .closed => "closed"

/-- The name of a state in descriptions. -/
def title : WorkerState → String
  | .unstarted => "Unstarted"
  | .handshaking => "Handshaking"
  | .ready => "Ready"
  | .closed => "Closed"

/-- The state after the stream was opened. -/
def opened : WorkerState → WorkerState
  | .unstarted => .handshaking
  | s => s

/-- The state after an init request, which is refused before the stream is opened and after the
worker was closed. -/
def initialised : WorkerState → Option WorkerState
  | .handshaking | .ready => some .ready
  | .unstarted | .closed => none

end WorkerState

/-! ## The journal -/

/-- What code of functions does outside the worker. -/
inductive Note where
  /-- Something that happened, by whom, and what came of it. -/
  | event (who what : String) (result : Json)
  /-- A context was kept beyond its invocation. -/
  | kept (name : String) (context : ContextId)
deriving Inhabited

/-! ## The world and its operations -/

structure World where
  contexts : List Context := []
  cancellations : CancellationRegistry := {}
  services : Services := {}
  environment : Environment := {}
  functions : FunctionTable := {}
  state : WorkerState := .unstarted
  directory : Option String := none
  identities : Nat := 0
  journal : List Note := []
deriving Inhabited

inductive Op where
  | newContext (facts : ContextFacts)
  | onContext (c : ContextId) (s : ContextStep)
  /-- The scope of a context, which is opened if it has none. -/
  | scopeOf (c : ContextId)
  | resolve (scope : ScopeId) (type : String)
  | disposeScope (scope : ScopeId)
  | drawToken
  | insertRegistration (r : Registration)
  | removeRegistration (r : Registration)
  | tryCancel (invocationId : String)
  | signal (token : TokenId)
  | isSignalled (token : TokenId)
  | findFunction (id : String)
  | insertFunction (d : Definition)
  | environment
  | reload (vars : List (String × String)) (directory : Option String)
  | state
  | openState
  | initialise
  | closeState
  | directory
  | setDirectory (d : String)
  | identity
  | note (n : Note)

namespace Op

def Reply : Op → Type
  | .newContext _ => ContextId
  | .onContext _ s => s.Reply
  | .scopeOf _ => ScopeId
  | .resolve _ _ => Except Panic (Option ServiceInstance)
  | .disposeScope _ => Unit
  | .drawToken => TokenId
  | .insertRegistration _ | .removeRegistration _ | .signal _ => Unit
  | .tryCancel _ => CancelOutcome
  | .isSignalled _ => Bool
  | .findFunction _ => Option Definition
  | .insertFunction _ => Bool
  | .environment => Environment
  | .reload _ _ => Except String Unit
  | .state => WorkerState
  | .openState | .closeState => Unit
  | .initialise => Except WorkerState Unit
  | .directory => Option String
  | .setDirectory _ => Unit
  | .identity => String
  | .note _ => Unit

end Op

namespace World

/-- The digits of identities, which leave out letters that are easily confused. -/
def identityDigits : List Char := "0123456789ABCDEFGHJKMNPQRSTVWXYZ".toList

/-- The identity of a number: so many digits of base 32. -/
def identityOf : Nat → Nat → List Char
  | 0, _ => []
  | width + 1, n => identityOf width (n / 32) ++ [identityDigits.getD (n % 32) '0']

def context (w : World) (c : ContextId) : Context := w.contexts.getD c default

def perform : (op : Op) → World → op.Reply × World
  | .newContext facts, w =>
    (w.contexts.length, { w with contexts := w.contexts ++ [{ facts }] })
  | .onContext c s, w =>
    let (a, x) := s.perform (w.context c)
    (a, { w with contexts := w.contexts.set c x })
  | .scopeOf c, w =>
    match (w.context c).scope with
    | some s => (s, w)
    | none =>
      let (s, services) := w.services.openScope
      (s, { w with
        services
        contexts := w.contexts.set c { w.context c with scope := some s } })
  | .resolve scope type, w =>
    let (a, services) := w.services.resolve scope type
    (a, { w with services })
  | .disposeScope scope, w => ((), { w with services := w.services.dispose scope })
  | .drawToken, w =>
    let (t, cancellations) := w.cancellations.draw
    (t, { w with cancellations })
  | .insertRegistration r, w => ((), { w with cancellations := w.cancellations.insert r })
  | .removeRegistration r, w => ((), { w with cancellations := w.cancellations.remove r })
  | .tryCancel id, w =>
    let (a, cancellations) := w.cancellations.tryCancel id
    (a, { w with cancellations })
  | .signal t, w => ((), { w with cancellations := w.cancellations.signal t })
  | .isSignalled t, w => (w.cancellations.isSignalled t, w)
  | .findFunction id, w => (w.functions.find? id, w)
  | .insertFunction d, w =>
    match w.functions.insert d with
    | some functions => (true, { w with functions })
    | none => (false, w)
  | .environment, w => (w.environment, w)
  | .reload vars directory, w =>
    match w.environment.reload vars directory with
    | .ok environment => (.ok (), { w with environment })
    | .error reason => (.error reason, w)
  | .state, w => (w.state, w)
  | .openState, w => ((), { w with state := w.state.opened })
  | .initialise, w =>
    match w.state.initialised with
    | some state => (.ok (), { w with state })
    | none => (.error w.state, w)
  | .closeState, w => ((), { w with state := .closed })
  | .directory, w => (w.directory, w)
  | .setDirectory d, w => ((), { w with directory := some d })
  | .identity, w =>
    (String.ofList ('0' :: '1' :: identityOf 24 w.identities),
      { w with identities := w.identities + 1 })
  | .note n, w => ((), { w with journal := w.journal ++ [n] })

end World

end FunctionWorker
