/-
The steps of scripts. Each makes one call and notes what came of it under its own name; what it has
taken from the arguments it keeps for later steps.
-/
import FunctionWorker.Script.Value

namespace FunctionWorker.Script

inductive Action where
  | take (index : Nat) (typeName : String)
  | takeNamed (name typeName : String)
  | countArguments
  | describeArguments
  /-- Sets the output that was taken at a place. -/
  | set (slot : Nat) (value : OutputValue)
  | token
  | state
  | info
  | setItem (name : String) (value : Datum)
  | item (name typeName : String)
  | setOutput (name : String) (value : OutputValue)
  | hasOutput (name : String)
  | declares (name : String)
  | addAttribute (name value : String)
  | trigger (name : String)
  | variable (name : String)
  | environment
  | log (level : LogLevel) (message : String)
  | service (type : String)
  | isCancelled
  | cancel
  | keep (name : String)
  | describe
  | sleep (ms : Nat)
  | awaitCancellation
  | unknown

structure Step where
  name : String
  /-- Whether the script ends with the step's failure. -/
  must : Bool
  action : Action

/-! ## Reading -/

/-- An item's value: a number of one of two types or a text. -/
def itemOf (j : Json) : Datum :=
  match j.getText "t" with
  | "i64" => .i64 (Int64.ofInt (j.getInt "v"))
  | "u32" => .u32 (UInt32.ofNat (j.getNat "v"))
  | _ => .text (j.getText "v")

def itemType : String → String
  | "i64" => "i64"
  | "u32" => "u32"
  | _ => TypeName.text

def Vocabulary.step (voc : Vocabulary) (j : Json) : Step :=
  let name := j.getText "name"
  let type := (voc.typeOf (j.getText "ty")).name
  let value := voc.outputOf (j.get "value")
  let action : Action :=
    match j.getText "s" with
    | "take" => .take (j.getNat "i") type
    | "take_named" => .takeNamed name type
    | "args" => .countArguments
    | "debug_args" => .describeArguments
    | "set" => .set (j.getNat "slot") value
    | "token" => .token
    | "state" => .state
    | "info" => .info
    | "set_item" => .setItem name (itemOf j)
    | "item" => .item name (itemType (j.getText "t"))
    | "set_output" => .setOutput name value
    | "has_output" => .hasOutput name
    | "declares" => .declares name
    | "trace_attr" => .addAttribute name (j.getText "v")
    | "trigger" => .trigger name
    | "env" => .variable name
    | "env_info" => .environment
    | "log" => .log (.ofName (j.getText "level")) (j.getText "message")
    | "service" => .service (j.getText "ty")
    | "is_cancelled" => .isCancelled
    | "cancel_self" => .cancel
    | "stash" => .keep name
    | "debug" => .describe
    | "sleep" => .sleep (j.getNat "ms")
    | "wait_cancel" => .awaitCancellation
    | _ => .unknown
  ⟨j.getText "s", j.getBool "must", action⟩

/-! ## Running -/

/-- What a script holds while it runs. -/
structure Locals where
  /-- Who the script is. -/
  who : String
  arguments : Arguments := ⟨[], []⟩
  context : Option ContextId := none
  token : Option TokenId := none
  /-- The outputs taken so far. -/
  slots : List OutputSlot := []

namespace Locals

def note (l : Locals) (step : String) (result : Json) : Code Unit :=
  Code.ask (.note (.event l.who step result))

/-- Keeps a value that was taken. -/
def receive (l : Locals) : Datum → Locals
  | .context c => { l with context := some c }
  | .token t => { l with token := some t }
  | .output s => { l with slots := l.slots ++ [s] }
  | _ => l

end Locals

/-- What a step yields: what there is to see, and the failure if it failed. -/
structure Yield where
  result : Json
  failure : Option FunctionError := none

def Yield.ok : Yield := ⟨.text "ok", none⟩

/-- A failed call on a context as an error of the script. -/
def contextFailure (e : ContextError) : FunctionError :=
  .ofError "stratus_worker::context::ContextError" e.message

def ofContext : Except ContextError Unit → Yield
  | .ok () => .ok
  | .error e => ⟨contextRefusal e, some (contextFailure e)⟩

/-- Shows a value that was taken, or why none was. -/
def taken (l : Locals) : Except FunctionError Datum × Arguments → Code (Yield × Locals)
  | (.ok d, arguments) => do
    let j ← shown l.slots.length d
    return (⟨.object [("ok", j)], none⟩, { l with arguments }.receive d)
  | (.error e, arguments) =>
    return (⟨refused e.typeName e.message, some e⟩, { l with arguments })

/-- What there is to see of an invocation. -/
def factsForm (f : ContextFacts) : Json :=
  .object [("invocation_id", .text f.invocationId), ("function_id", .text f.definition.id),
    ("function_name", .text f.definition.name), ("entry_point", .text f.definition.entryPoint),
    ("outputs", .ofTexts f.definition.outputs),
    ("trace", .ofOption TraceContext.toJson f.traceContext),
    ("retry", .ofOption RetryContext.toJson f.retryContext)]

/-- Runs an action on a context. -/
def runOn (c : ContextId) : Action → Code Yield
  | .state => do
    let s : ContextState ← Code.ask (.state c)
    return ⟨.text s.name, none⟩
  | .info => do
    let f : ContextFacts ← Code.ask (.facts c)
    return ⟨factsForm f, none⟩
  | .setItem name value => do
    let r : Except ContextError Unit ← Code.ask (.setItem c name value)
    return ofContext r
  | .item name typeName => do
    let d : Option Datum ← Code.ask (.item c name typeName)
    return ⟨.ofOption plainText d, none⟩
  | .setOutput name value => do
    let r : Except ContextError Unit ← Code.ask (.setOutput c name value)
    return ofContext r
  | .hasOutput name => do
    let b : Bool ← Code.ask (.hasOutput c name)
    return ⟨.bool b, none⟩
  | .declares name => do
    let f : ContextFacts ← Code.ask (.facts c)
    return ⟨.array [.ofOption .text (f.definition.outputName name),
      .bool (f.definition.declaresOutput name), .bool f.definition.hasReturnValue], none⟩
  | .addAttribute name value => do
    Code.ask (.addAttribute c name value)
    return .ok
  | .trigger name => do
    let f : ContextFacts ← Code.ask (.facts c)
    return ⟨.ofOption WireValue.toJson (f.trigger name), none⟩
  | .variable name => do
    let e : Environment ← Code.ask .environment
    return ⟨.ofOption .text (e.get name), none⟩
  | .environment => do
    let e : Environment ← Code.ask .environment
    return ⟨.object [("len", .int e.size), ("empty", .bool (e.size == 0)),
      ("dir", .ofOption .text e.directory)], none⟩
  | .log level message => do
    Code.ask (.log c level message)
    return .ok
  | .service type => do
    let r : Except ContextError (Except Panic (Option ServiceInstance)) ← Code.ask (.service c type)
    match r with
    | .error e => return ofContext (.error e)
    | .ok (.error p) => .panic p
    | .ok (.ok found) => return ⟨.ofOption (fun i => plainText i.value) found, none⟩
  | .isCancelled => do
    let f : ContextFacts ← Code.ask (.facts c)
    let b : Bool ← Code.ask (.isCancelled f.token)
    return ⟨.bool b, none⟩
  | .cancel => do
    let f : ContextFacts ← Code.ask (.facts c)
    Code.ask (.cancel f.token)
    return .ok
  | .keep name => do
    Code.ask (.note (.kept name c))
    return .ok
  | .describe => do
    let s : String ← Code.ask (.describe c)
    return ⟨.text s, none⟩
  | _ => return ⟨.text "unknown step", none⟩

/-- Waits until the invocation of a context, or else a token that was taken, is cancelled. -/
def awaitCancellation (l : Locals) : Code Yield := do
  match l.context, l.token with
  | some c, _ =>
    let f : ContextFacts ← Code.ask (.facts c)
    Routine.await (.signal f.token)
    return ⟨.text "done", none⟩
  | none, some t =>
    Routine.await (.signal t)
    return ⟨.text "done", none⟩
  | none, none => return ⟨.text "no context", none⟩

/-- Runs an action. -/
def runAction (l : Locals) : Action → Code (Yield × Locals)
  | .take index typeName => taken l (l.arguments.take index typeName)
  | .takeNamed name typeName => taken l (l.arguments.takeNamed name typeName)
  | .countArguments =>
    return (⟨.array [.int l.arguments.size, .bool (l.arguments.size == 0)], none⟩, l)
  | .describeArguments => return (⟨.text l.arguments.describe, none⟩, l)
  | .set slot value => do
    match l.slots[slot]? with
    | none => return (⟨.text "no binding", none⟩, l)
    | some s =>
      let r : Except ContextError Unit ← Code.ask (.setOutput s.context s.name value)
      return (ofContext r, l)
  | .token => do
    match l.token with
    | none => return (⟨.null, none⟩, l)
    | some t =>
      let b : Bool ← Code.ask (.isCancelled t)
      return (⟨.bool b, none⟩, l)
  | .sleep ms => do
    Routine.await (.sleep ms)
    return (⟨.text "done", none⟩, l)
  | .awaitCancellation => do
    let y ← awaitCancellation l
    return (y, l)
  | action => do
    match l.context with
    | none => return (⟨.text "no context", none⟩, l)
    | some c =>
      let y ← runOn c action
      return (y, l)

/-- Whether the action only waits. -/
def Action.waits : Action → Bool
  | .sleep _ | .awaitCancellation => true
  | _ => false

/-- Runs steps in order and notes what comes of them, up to the first failure that counts. Waits are
noted only where `notesWaits` says so. -/
def runSteps (notesWaits : Bool) : Locals → List Step → Code (Option FunctionError)
  | _, [] => return none
  | l, s :: rest => do
    let (y, l) ← runAction l s.action
    if notesWaits || !s.action.waits then l.note s.name y.result
    match s.must, y.failure with
    | true, some e => return some e
    | _, _ => runSteps notesWaits l rest

end FunctionWorker.Script
