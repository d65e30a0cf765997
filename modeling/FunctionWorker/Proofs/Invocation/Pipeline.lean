/-
What the pipeline of an invocation asks for. Whatever code runs in it, it uses the contexts, services and
tokens there are and may ship log records; none of the operations by which invocations are registered
and released is among it.
-/
import FunctionWorker.Invocation.Pipeline
import FunctionWorker.Proofs.Bridge.Asks
import FunctionWorker.Proofs.World.Run

namespace FunctionWorker

/-- Operations by which invocations are registered, contexts and scopes are disposed of. -/
def Op.isRelease : Op → Bool
  | .onContext _ .markDisposed | .onContext _ .takeScope | .onContext _ .clearItems | .disposeScope _ => true
  | .insertRegistration _ | .removeRegistration _ => true
  | _ => false

theorem Op.Yields.modest {op : Op} {w w' : World} {es : List Event} {a : op.Reply} (h : op.Yields w es a w')
    (hop : op.isRelease = false) : Own (·.isRelease = false) es := h.own hop

/-- A job that leaves the release of invocations to others. -/
abbrev Job.Modest {α : Type} (j : Job α) : Prop := Job.AsksOnly (·.isRelease = false) j

/-- Operations that use what is there: contexts that are not released, services, tokens, the environment. -/
def Op.isUse : Op → Bool
  | .onContext c s => !(Op.onContext c s).isRelease
  | .scopeOf _ | .resolve _ _ | .isSignalled _ | .signal _ | .environment | .identity | .note _ => true
  | _ => false

theorem Op.isUse_modest {op : Op} (h : op.isUse = true) : op.isRelease = false := by
  cases op with
  | onContext c s => simpa only [isUse, Bool.not_eq_true'] using h
  | insertRegistration r | removeRegistration r | disposeScope s => cases h
  | _ => rfl

/-- What code of users can cause: operations that use what is there, and log records. -/
def Effect.IsUse : Effect Op → Prop
  | .own op => op.isUse = true
  | .now | .isClosed | .push _ => True
  | .close | .watch _ => False

/-- A job that only uses what is there. -/
abbrev Job.Uses {α : Type} (j : Job α) : Prop := Work.Asks Effect.IsUse j

variable {α β : Type}

namespace Job

theorem asksOnly_of_asks {P : Op → Prop} : ∀ {j : Job α}, Work.Asks (Effect.Of P) j → AsksOnly P j
  | .done _, _ | .panic _, _ => trivial
  | .call _ k, h => ⟨h.1, fun a => asksOnly_of_asks (j := k a) (h.2 a)⟩
  | .wait _ rest, h => asksOnly_of_asks (j := rest) h

theorem Uses.modest {j : Job α} (h : j.Uses) : j.Modest := by
  refine asksOnly_of_asks (h.imp fun x hx => ?_)
  cases x with
  | own op => exact op.isUse_modest hx
  | _ => exact trivial

theorem Uses.op {o : Op} (h : o.isUse = true) : (Job.op o).Uses := .own h

theorem Uses.pure (a : α) : (pure a : Job α).Uses := trivial

theorem Uses.bind {j : Job α} {f : α → Job β} (hj : j.Uses) (hf : ∀ a, (f a).Uses) : (j >>= f).Uses :=
  Work.Asks.bind hf hj

theorem setItem_uses (c : ContextId) (key : String) (value : Datum) : (Job.setItem c key value).Uses := by
  refine Uses.bind (Uses.op rfl) fun checked => ?_
  cases checked with
  | error e => exact Uses.pure _
  | ok => exact Uses.bind (Uses.op rfl) fun _ => Uses.pure _

theorem setOutput_uses (c : ContextId) (name : String) (value : OutputValue) :
    (Job.setOutput c name value).Uses := by
  refine Uses.bind (Uses.op rfl) fun checked => ?_
  cases checked with
  | error e => exact Uses.pure _
  | ok =>
    refine Uses.bind (Uses.op rfl) fun facts => ?_
    split
    · exact Uses.pure _
    · exact Uses.bind (Uses.op rfl) fun _ => Uses.pure _

theorem setResult_uses (c : ContextId) (r : HandlerResult) : (Job.setResult c r).Uses := by
  refine Uses.bind (Uses.op rfl) fun checked => ?_
  cases checked with
  | error e => exact Uses.pure _
  | ok => exact Uses.bind (Uses.op rfl) fun _ => Uses.pure _

theorem openServices_uses (c : ContextId) : (Job.openServices c).Uses := by
  refine Uses.bind (Uses.op rfl) fun state => ?_
  split
  · exact Uses.pure _
  · exact Uses.bind (Uses.op rfl) fun _ => Uses.pure _

theorem shipRecord_uses (r : LogRecord) : (shipRecord r).Uses := by
  refine Uses.bind ⟨trivial, fun _ => trivial⟩ fun now => Uses.bind (.send trivial trivial) fun _ => Uses.pure _

end Job

open Job

theorem Call.perform_uses (call : Call) : call.perform.Uses := by
  cases call with
  | setItem c key value => exact setItem_uses c key value
  | setOutput c name value => exact setOutput_uses c name value
  | service c type =>
    refine Uses.bind (openServices_uses c) fun opened => ?_
    cases opened with
    | error e => exact Uses.pure _
    | ok scope => exact Uses.bind (Uses.op rfl) fun _ => Uses.pure _
  | log c level message =>
    exact Uses.bind (Uses.op rfl) fun _ => shipRecord_uses _
  | _ => exact Uses.op rfl

/-- Code of users only uses what is there, whatever it does. -/
theorem Code.job_uses (code : Code α) : code.job.Uses := .expand Call.perform_uses code

/-! ## Binding and routing -/

theorem ConverterChain.convertWith_uses (r : BindingRequest) :
    ∀ (failure : Option String) (converters : List Converter), (convertWith r failure converters).Uses
  | _, [] => Uses.pure _
  | failure, x :: xs => by
    refine Uses.bind (Code.job_uses _) fun conversion => ?_
    cases conversion with
    | unhandled => exact convertWith_uses r failure xs
    | succeeded value => exact Uses.pure _
    | failed reason => exact convertWith_uses r _ xs

namespace Pipeline

theorem bindParameter_uses (chain : ConverterChain) (c : ContextId) (facts : ContextFacts) (p : Parameter) :
    (bindParameter chain c facts p).Uses := by
  unfold bindParameter
  split
  · exact Uses.pure _
  · exact Uses.bind (ConverterChain.convertWith_uses _ _ _) fun _ => Uses.pure _

theorem bindAll_uses (chain : ConverterChain) (c : ContextId) (facts : ContextFacts) :
    ∀ parameters : List Parameter, (bindAll chain c facts parameters).Uses
  | [] => Uses.pure _
  | p :: ps => by
    refine Uses.bind (bindParameter_uses chain c facts p) fun bound => ?_
    cases bound with
    | error e => exact Uses.pure _
    | ok d => exact Uses.bind (bindAll_uses chain c facts ps) fun _ => Uses.pure _

theorem execute_uses (p : Pipeline) (c : ContextId) : (p.execute c).Uses := by
  refine Uses.bind (Uses.op rfl) fun facts => Uses.bind (bindAll_uses _ _ _ _) fun bound => ?_
  cases bound with
  | error e => exact Uses.pure _
  | ok bound =>
    refine Uses.bind (Uses.op rfl) fun cancelled => ?_
    split
    · exact Uses.pure _
    · refine Uses.bind (Code.job_uses _) fun result => ?_
      cases result with
      | error e => exact Uses.pure _
      | ok result => exact Uses.bind (setResult_uses c result) fun _ => Uses.pure _

theorem route_uses (c : ContextId) : ∀ outputs : List (String × OutputValue), (route c outputs).Uses
  | [] => Uses.pure _
  | (name, v) :: rest => by
    refine Uses.bind (setOutput_uses c name v) fun set => ?_
    cases set with
    | error e => exact Uses.pure _
    | ok => exact route_uses c rest

theorem routeResult_uses (c : ContextId) : (routeResult c).Uses := by
  refine Uses.bind (Uses.op rfl) fun result => ?_
  cases result with
  | none => exact Uses.pure _
  | some r =>
    refine Uses.bind (route_uses c _) fun routed => ?_
    cases routed with
    | error e => exact Uses.pure _
    | ok =>
      refine Uses.bind (Uses.op rfl) fun facts => ?_
      split
      · split
        · exact route_uses c _
        · exact Uses.pure _
      · exact Uses.pure _

theorem core_uses (p : Pipeline) (c : ContextId) : (p.core c).Uses := by
  refine Uses.bind (execute_uses p c) fun result => ?_
  cases result with
  | error e => exact Uses.pure _
  | ok => exact routeResult_uses c

theorem runWith_uses {core : Job Passage} (hcore : core.Uses) (c : ContextId) :
    ∀ middleware : List Middleware, (runWith core c middleware).Uses
  | [] => hcore
  | m :: rest => by
    refine Uses.bind (Code.job_uses _) fun decision => ?_
    cases decision with
    | stop result => exact Uses.pure _
    | proceed after =>
      exact Uses.bind (runWith_uses hcore c rest) fun result => Code.job_uses _

theorem run_uses (p : Pipeline) (c : ContextId) : (p.run c).Uses := runWith_uses (core_uses p c) c p.middleware

/-- No middleware, converter or function, and no step between them, releases an invocation. -/
theorem run_modest (p : Pipeline) (c : ContextId) : (p.run c).Modest := (p.run_uses c).modest

end Pipeline

end FunctionWorker
