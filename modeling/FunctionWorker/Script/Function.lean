/-
Functions and middleware as scripts. A function runs its steps and ends with a result, an error or
a panic. A middleware runs steps before the rest of the pipeline and after it, and may put its own
result in the place of the one that comes back.
-/
import FunctionWorker.Script.Step
import FunctionWorker.Worker.Catalog

namespace FunctionWorker.Script

/-! ## Functions -/

/-- How a function ends. -/
inductive Ending where
  | error (e : FunctionError)
  | panic (p : Panic)
  | result (r : HandlerResult)

structure Function where
  name : String
  steps : List Step
  ending : Ending

def Vocabulary.ending (voc : Vocabulary) (j : Json) : Ending :=
  if j.has "error" then .error (voc.functionError (j.get "error"))
  else if j.has "panic" then .panic (panicOf (j.get "panic"))
  else
    let returned := if j.has "result" then j.get "result" else j.get "return"
    .result ⟨returned.asOption voc.outputOf, voc.outputsOf (j.get "outputs")⟩

def Vocabulary.function (voc : Vocabulary) (j : Json) : Function :=
  ⟨j.getText "name", (j.getList "script").map voc.step, voc.ending (j.get "end")⟩

/-- The code of a function. -/
def Function.handler (f : Function) : Handler := fun arguments => do
  match ← runSteps true { who := "fn:" ++ f.name, arguments } f.steps with
  | some e => return .error e
  | none =>
    match f.ending with
    | .error e => return .error e
    | .panic p => .panic p
    | .result r => return .ok r

/-- A parameter or binding of a function by the way it is declared. -/
def Vocabulary.declare (voc : Vocabulary) (e : CatalogEntry) (j : Json) : CatalogEntry :=
  let name := j.getText "name"
  let type := voc.typeOf (j.getText "type")
  let binding := j.getText "binding"
  match j.getText "m" with
  | "trigger" => e.trigger name type binding
  | "input" => e.input name type binding
  | "output" => e.output name (voc.outputTypeOf (j.getText "type")) binding
  | "context" => e.context name type
  | "out" => e.outputBinding name binding
  | "returns" => e.returns binding
  | _ =>
    let role : Role :=
      match j.getText "role" with
      | "trigger" => .trigger
      | "output" => .output
      | "context" => .context
      | _ => .input
    e.parameter ⟨name, type, role⟩ ⟨binding, .ofName (j.getText "direction")⟩

/-- The entry of a function whose code has a number. -/
def Vocabulary.entry (voc : Vocabulary) (handler : HandlerId) (j : Json) : CatalogEntry :=
  let e := CatalogEntry.ofHandler (j.getText "name") handler
  let e := ((j.get "entry_point").asOption Json.asText).elim e e.withEntryPoint
  let e := ((j.get "retry").asOption RetryPolicy.ofJson).elim e e.withRetry
  (j.getList "params").foldl voc.declare e

/-! ## Middleware -/

/-- What a middleware does at one of its two turns. -/
inductive Turn where
  /-- Goes on, or passes on what came back. -/
  | pass
  | succeed
  | fail (e : InvocationError)
  | panic (p : Panic)

structure Layer where
  label : String
  before : List Step
  turn : Turn
  after : List Step
  afterTurn : Turn
  /-- Whether the rest of the pipeline is described first. -/
  describes : Bool

def Vocabulary.turn (voc : Vocabulary) (j : Json) : Turn :=
  match j with
  | .null => .pass
  | .text _ => .succeed
  | j => if j.getText "e" = "panic" then .panic (panicOf j) else .fail (voc.invocationError j)

def Vocabulary.layer (voc : Vocabulary) (j : Json) : Layer :=
  ⟨j.getText "label", (j.getList "before").map voc.step, voc.turn (j.get "then"),
    (j.getList "after").map voc.step, voc.turn (j.get "after_then"), j.getBool "debug"⟩

namespace Layer

def locals (l : Layer) (c : ContextId) : Locals :=
  { who := "mw:" ++ l.label, context := some c }

/-- The second turn, after the rest of the pipeline. -/
def finish (l : Layer) (c : ContextId) (result : Passage) : Code Passage := do
  let shown :=
    match result with
    | .ok () => "ok"
    | .error e => e.typeName
  (l.locals c).note "next" (.text shown)
  let _ ← runSteps false (l.locals c) l.after
  match l.afterTurn with
  | .pass => return result
  | .succeed => return .ok ()
  | .fail e => return .error e
  | .panic p => .panic p

/-- The code of a middleware. -/
def middleware (l : Layer) : Middleware := fun c remaining => do
  if l.describes then
    (l.locals c).note "debug"
      (.text (Text.record "Next" [("remaining", toString remaining)] false))
  let _ ← runSteps false (l.locals c) l.before
  match l.turn with
  | .pass => return .proceed (l.finish c)
  | .succeed => return .stop (← l.finish c (.ok ()))
  | .fail e => return .stop (← l.finish c (.error e))
  | .panic p => .panic p

end Layer

end FunctionWorker.Script
