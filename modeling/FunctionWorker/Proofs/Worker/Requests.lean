/-
What the worker asks for about each message. Only the greeting, the init, load and terminate requests ask
for the operations that change the state of the worker or what is loaded; only the init and reload requests
ask for those on its settings; and only the terminate request has the stream shut down.
-/
import FunctionWorker.Proofs.Invocation.Pipeline
import FunctionWorker.Worker.Process

namespace FunctionWorker

/-- Operations on the state of the worker and on what is loaded. -/
def Op.isLifecycle : Op → Bool
  | .openState | .initialise | .closeState | .insertFunction _ => true
  | _ => false

/-- Operations on the environment and the directory of the worker. -/
def Op.isSetting : Op → Bool
  | .reload _ _ | .setDirectory _ => true
  | _ => false

/-- An effect that does not have the stream shut down. -/
def Effect.Steady {Op : Type} : Effect Op → Prop
  | .close | .watch _ => False
  | _ => True

/-- An effect that leaves alone the state of the worker, what is loaded, and the stream. -/
def Effect.Serves : Effect Op → Prop
  | .own op => op.isLifecycle = false
  | .close | .watch _ => False
  | _ => True

/-- An effect that leaves alone the settings of the worker as well. -/
def Effect.Keeps (x : Effect Op) : Prop := x.Serves ∧ x.Of (·.isSetting = false)

theorem Effect.IsUse.keeps {x : Effect Op} (h : x.IsUse) : x.Keeps := by
  cases x with
  | own op =>
    cases op with
    | openState | initialise | closeState | insertFunction d | reload vars directory | setDirectory d => cases h
    | _ => exact ⟨rfl, rfl⟩
  | close | watch ms => exact h.elim
  | _ => exact ⟨trivial, trivial⟩

theorem Effect.Serves.steady {x : Effect Op} (h : x.Serves) : x.Steady := by
  cases x with
  | close | watch ms => exact h.elim
  | _ => exact trivial

theorem Effect.Serves.of {x : Effect Op} (h : x.Serves) : x.Of (·.isLifecycle = false) := by
  cases x with
  | own op => exact h
  | _ => exact trivial

/-- A job that serves a worker as it is. -/
abbrev Job.Serves {α : Type} (j : Job α) : Prop := Work.Asks Effect.Serves j

/-- A job that serves a worker as it is and with the settings that it has. -/
abbrev Job.Keeps {α : Type} (j : Job α) : Prop := Work.Asks Effect.Keeps j

variable {α β : Type} {j : Job α} {f : α → Job β}

namespace Job

theorem Uses.keeps (h : j.Uses) : j.Keeps := h.imp fun _ => Effect.IsUse.keeps

theorem Keeps.serves (h : j.Keeps) : j.Serves := h.imp fun _ hx => hx.1

theorem Serves.steady (h : j.Serves) : Work.Asks Effect.Steady j := h.imp fun _ => Effect.Serves.steady

theorem Serves.op {o : Op} (h : o.isLifecycle = false) : (Job.op o).Serves := .own h

theorem Serves.pure (a : α) : (pure a : Job α).Serves := trivial

theorem Serves.bind (hj : j.Serves) (hf : ∀ a, (f a).Serves) : (j >>= f).Serves := Work.Asks.bind hf hj

theorem Keeps.op {o : Op} (h : (o.isLifecycle || o.isSetting) = false) : (Job.op o).Keeps :=
  .own (Bool.or_eq_false_iff.1 h)

theorem Keeps.pure (a : α) : (pure a : Job α).Keeps := trivial

theorem Keeps.bind (hj : j.Keeps) (hf : ∀ a, (f a).Keeps) : (j >>= f).Keeps := Work.Asks.bind hf hj

theorem dispose_keeps (c : ContextId) : (Job.dispose c).Keeps := by
  refine Keeps.bind (Keeps.op rfl) fun first => ?_
  cases first with
  | false => exact Keeps.pure _
  | true =>
    refine Keeps.bind (Keeps.op rfl) fun scope => ?_
    cases scope with
    | none => exact Keeps.bind (Keeps.op rfl) fun _ => Keeps.pure _
    | some s => exact Keeps.bind (Keeps.op rfl) fun _ => Keeps.bind (Keeps.op rfl) fun _ => Keeps.pure _

end Job

open Job

/-! ## Invocations -/

namespace Invoker

theorem execute_keeps (v : Invoker) (c : ContextId) (token : TokenId) : (v.execute c token).Keeps := by
  refine Keeps.bind (Keeps.op rfl) fun begun => ?_
  cases begun with
  | error e => exact Keeps.pure _
  | ok =>
    refine Keeps.bind (Keeps.op rfl) fun cancelled => ?_
    split
    · exact Keeps.pure _
    · refine Keeps.bind (v.pipeline.run_uses c).keeps.attempt fun result => ?_
      cases result <;> exact Keeps.pure _

theorem collect_keeps (v : Invoker) (c : ContextId) (d : Definition) : (v.collect c d).Keeps := by
  refine Keeps.bind (Keeps.op rfl) fun _ => Keeps.bind (Keeps.op rfl) fun produced => ?_
  split <;> exact Keeps.pure _

theorem settle_keeps (v : Invoker) (c : ContextId) (d : Definition) (passage : Passage) :
    (v.settle c d passage).Keeps := by
  cases passage with
  | ok => exact v.collect_keeps c d
  | error e => exact Keeps.bind (Keeps.op rfl) fun _ => Keeps.pure _

theorem invokeLoaded_keeps (v : Invoker) (request : InvocationRequest) (d : Definition) :
    (v.invokeLoaded request d).Keeps := by
  refine Keeps.bind (Keeps.op rfl) fun token => Keeps.bind (Keeps.op rfl) fun _ =>
    Keeps.bind (Keeps.op rfl) fun c => Keeps.bind (v.execute_keeps c token) fun passage =>
    Keeps.bind (Keeps.op rfl) fun attributes => Keeps.bind (v.settle_keeps c d passage) fun settled => ?_
  -- what is left once there is a response
  have hends (response : InvocationResponse) : Job.Keeps (do
      Job.op (.removeRegistration ⟨request.invocationId, token⟩)
      let _ ← Job.dispose c
      return response) :=
    Keeps.bind (Keeps.op rfl) fun _ => Keeps.bind (dispose_keeps c) fun _ => Keeps.pure _
  cases settled with
  | ok s => exact hends _
  | error e => exact Keeps.bind (Keeps.op rfl) fun _ => hends _

theorem invoke_keeps (v : Invoker) (request : InvocationRequest) : (v.invoke request).Keeps := by
  refine Keeps.bind (Keeps.op rfl) fun found => ?_
  cases found with
  | none => exact Keeps.pure _
  | some d => exact v.invokeLoaded_keeps request d

end Invoker

/-! ## Messages -/

namespace Worker

theorem ensureReady_keeps : ensureReady.Keeps := by
  refine Keeps.bind (Keeps.op rfl) fun state => ?_
  split <;> exact Keeps.pure _

theorem directoryFor_keeps (requested : String) : (directoryFor requested).Keeps := by
  unfold directoryFor
  split
  · exact Keeps.pure _
  · exact Keeps.bind (Keeps.op rfl) fun _ => Keeps.pure _

theorem listFunctions_keeps (v : Worker) (directory : String) : (v.listFunctions directory).Keeps := by
  unfold listFunctions
  extract_lets check
  have hchecks : ∀ listed, (check listed).Keeps := by
    intro listed
    cases listed with
    | error e => exact Keeps.pure _
    | ok functions =>
      unfold check
      dsimp only
      split <;> exact Keeps.pure _
  split
  · exact Keeps.bind (Code.job_uses _).keeps hchecks
  · exact Keeps.bind (Keeps.bind (Code.job_uses _).keeps fun _ => Keeps.pure _) hchecks

theorem functionMetadata_keeps (v : Worker) (requested : String) : (v.functionMetadata requested).Keeps := by
  unfold functionMetadata
  extract_lets answer
  have hanswer : ∀ result, (answer result).Keeps := by
    intro result
    cases result <;> exact Keeps.pure _
  refine Keeps.bind (j := ensureReady) ensureReady_keeps fun checked => ?_
  cases checked with
  | error e => exact hanswer (.error e)
  | ok =>
    exact Keeps.bind (directoryFor_keeps requested) fun directory =>
      Keeps.bind (v.listFunctions_keeps directory) hanswer

theorem invoke_keeps (v : Worker) (r : InvocationRequest) : (v.invoke r).Keeps := by
  refine Keeps.bind (j := ensureReady) ensureReady_keeps fun checked => ?_
  cases checked with
  | error e => exact Keeps.pure _
  | ok => exact Keeps.bind (v.invoker.invoke_keeps r) fun _ => Keeps.pure _

theorem replaceVariables_serves (v : Worker) (vars : List (String × String)) (directory : Option String) :
    (v.replaceVariables vars directory).Serves := by
  unfold replaceVariables
  split
  · exact (Code.job_uses _).keeps.serves
  · exact Serves.bind (Serves.op rfl) fun _ => Serves.pure _

theorem reload_serves (v : Worker) (r : ReloadRequest) : (v.reload r).Serves := by
  refine Serves.bind (v.replaceVariables_serves _ _) fun result => ?_
  dsimp only
  split
  · exact Serves.bind (Serves.op rfl) fun _ => Serves.pure _
  · exact Serves.pure _

/-- The init, load and terminate requests are the ones that change what a worker is. -/
def isLifecycle : Message → Bool
  | .initRequest _ | .loadRequest _ | .terminate _ => true
  | _ => false

/-- Apart from these and the reload request, no message changes what a worker is or its settings. -/
theorem answer_keeps (v : Worker) {m : Message} (h : isLifecycle m = false) (hr : ∀ r, m ≠ .reloadRequest r) :
    (v.answer m).Keeps := by
  cases m with
  | initRequest r | loadRequest r | terminate ms => cases h
  | reloadRequest r => exact absurd rfl (hr r)
  | statusRequest => exact Keeps.bind (Keeps.op rfl) fun _ => Keeps.pure _
  | metadataRequest d => exact Keeps.bind (v.functionMetadata_keeps d) fun _ => Keeps.pure _
  | invocationRequest r => exact Keeps.bind (v.invoke_keeps r) fun _ => Keeps.pure _
  | invocationCancel r => exact Keeps.bind (Keeps.op rfl) fun _ => Keeps.pure _
  | _ => exact Keeps.pure _

theorem answer_serves (v : Worker) {m : Message} (h : isLifecycle m = false) : (v.answer m).Serves := by
  cases m with
  | reloadRequest r => exact Serves.bind (v.reload_serves r) fun _ => Serves.pure _
  | _ => exact (v.answer_keeps h nofun).serves

theorem init_steady (v : Worker) (r : InitRequest) : Work.Asks Effect.Steady (v.init r) := by
  refine Work.Asks.bind (fun result => ?_) (Work.Asks.own (P := Effect.Steady) trivial)
  cases result with
  | error s => exact .done _
  | ok =>
    dsimp only
    split
    · exact Work.Asks.bind (fun _ => .done _) (Work.Asks.own (P := Effect.Steady) trivial)
    · exact .done _

theorem loadDefinition_steady (v : Worker) (r : LoadRequest) : Work.Asks Effect.Steady (v.loadDefinition r) := by
  refine Work.Asks.bind (r := ensureReady) (fun checked => ?_) ensureReady_keeps.serves.steady
  cases checked with
  | error e => exact .done _
  | ok =>
    dsimp only
    split
    · exact .done _
    · refine Work.Asks.bind (fun inserted => ?_) (Work.Asks.own (P := Effect.Steady) trivial)
      cases inserted <;> exact .done _

/-- Only the terminate request has the stream shut down. -/
theorem answer_steady (v : Worker) {m : Message} (h : ∀ graceMs, m ≠ .terminate graceMs) :
    Work.Asks Effect.Steady (v.answer m) := by
  cases m with
  | terminate ms => exact absurd rfl (h ms)
  | initRequest r => exact .bind (fun _ => .done _) (v.init_steady r)
  | loadRequest r => exact .bind (fun _ => .done _) (.bind (fun _ => .done _) (v.loadDefinition_steady r))
  | _ => exact (v.answer_serves rfl).steady

theorem process_steady (v : Worker) {e : Envelope} (h : ∀ graceMs, e.payload ≠ .terminate graceMs) :
    Work.Asks Effect.Steady (v.process e) := by
  refine .bind (fun answer => ?_) (v.answer_steady h)
  cases answer with
  | none => exact .done _
  | some m => exact .bind (fun _ => .done _) ⟨trivial, fun _ => trivial⟩

end Worker

end FunctionWorker
