/-
The course of an invocation: the stages it goes through in a world that is shared, each with what it
was answered and how it ended. Every run of an invocation takes one of these courses, and its response
is made from nothing else.
-/
import FunctionWorker.Invocation.Invoke
import FunctionWorker.Proofs.World.Contexts

namespace FunctionWorker

/-- The facts of the context that is made for a request. -/
def InvocationRequest.factsFor (request : InvocationRequest) (d : Definition) (token : TokenId) :
    ContextFacts :=
  ⟨request.invocationId, d, request.inputs, request.triggerMetadata, request.traceContext,
    request.retryContext, token⟩

namespace Invoker

/-! ## Stages -/

/-- The pipeline is run unless the context does not begin or the token is signalled by then. A panic
in it counts as an error. -/
inductive Executes (v : Invoker) (c : ContextId) (token : TokenId) :
    World → List Event → Passage → World → Prop
  | refused {w es e w'} (begins : Op.Yields (.onContext c .begin) w es (Except.error e) w') :
      Executes v c token w es (.error (.context e)) w'
  | cancelled {w es₁ es₂ w₁ w'} (begins : Op.Yields (.onContext c .begin) w es₁ (Except.ok ()) w₁)
      (asked : Op.Yields (.isSignalled token) w₁ es₂ true w') :
      Executes v c token w (es₁ ++ es₂) (.error .cancelled) w'
  | returned {w es₁ es₂ es₃ w₁ w₂ passage w'}
      (begins : Op.Yields (.onContext c .begin) w es₁ (Except.ok ()) w₁)
      (asked : Op.Yields (.isSignalled token) w₁ es₂ false w₂)
      (run : Job.Run (v.pipeline.run c) w₂ es₃ (.ok passage) w') :
      Executes v c token w (es₁ ++ (es₂ ++ es₃)) passage w'
  | panicked {w es₁ es₂ es₃ w₁ w₂ p w'}
      (begins : Op.Yields (.onContext c .begin) w es₁ (Except.ok ()) w₁)
      (asked : Op.Yields (.isSignalled token) w₁ es₂ false w₂)
      (run : Job.Run (v.pipeline.run c) w₂ es₃ (.error p) w') :
      Executes v c token w (es₁ ++ (es₂ ++ es₃)) (.error (.panicked p.message)) w'

theorem execute_inv {α : Type} {v : Invoker} {c : ContextId} {token : TokenId} {f : Passage → Job α}
    {w w' : World} {es : List Event} {r : Except Panic α}
    (h : Job.Run (v.execute c token >>= f) w es r w') :
    ∃ passage es₁ es₂ u, es = es₁ ++ es₂ ∧ Executes v c token w es₁ passage u ∧
      Job.Run (f passage) u es₂ r w' := by
  obtain ⟨es₁, es₂, a, w₁, rfl, begins, h⟩ := Job.Run.op_inv h
  cases a with
  | error e => exact ⟨_, _, _, _, rfl, .refused begins, h⟩
  | ok =>
    obtain ⟨es₂, es₃, signalled, w₂, rfl, asked, h⟩ := Job.Run.op_inv h
    cases signalled with
    | true => exact ⟨_, es₁ ++ es₂, es₃, _, (List.append_assoc ..).symm, .cancelled begins asked, h⟩
    | false =>
      rcases Job.Run.bind_inv (Job.Run.assoc (j := (v.pipeline.run c).attempt) h) with
        ⟨a, es₄, es₅, w₃, rfl, hattempt, h⟩ | ⟨p, rfl, hattempt⟩
      · obtain ⟨r', hr, run⟩ := Job.Run.attempt_inv hattempt
        cases hr
        cases a with
        | ok passage =>
          exact ⟨passage, es₁ ++ (es₂ ++ es₄), es₅, w₃, by simp only [List.append_assoc],
            .returned begins asked run, h⟩
        | error p =>
          exact ⟨_, es₁ ++ (es₂ ++ es₄), es₅, w₃, by simp only [List.append_assoc],
            .panicked begins asked run, h⟩
      · obtain ⟨r', hr, -⟩ := Job.Run.attempt_inv hattempt
        cases hr

/-- How an invocation stands when its pipeline has ended. -/
structure Passed where
  definition : Definition
  token : TokenId
  context : ContextId
  passage : Passage
  attributes : List (String × String)

/-- An invocation of a function that is found: it is registered under a token of its own, a context is
made, and the pipeline is executed. The attributes are those added from the making of the context on. -/
inductive Passes (v : Invoker) (request : InvocationRequest) : World → List Event → Passed → World → Prop
  | intro {w es₀ es₁ es₂ es₃ es₄ es₅ d token c passage w₀ w₁ w₂ w₃ w₄ w'}
      (found : Op.Yields (.findFunction request.functionId) w es₀ (some d) w₀)
      (drawn : Op.Yields .drawToken w₀ es₁ token w₁)
      (registered : Op.Yields (.insertRegistration ⟨request.invocationId, token⟩) w₁ es₂ () w₂)
      (created : Op.Yields (.newContext (request.factsFor d token)) w₂ es₃ c w₃)
      (executed : Executes v c token w₃ es₄ passage w₄)
      (read : Op.Yields (.onContext c .attributes) w₄ es₅ (added c (es₄ ++ es₅)) w') :
      Passes v request w (es₀ ++ (es₁ ++ (es₂ ++ (es₃ ++ (es₄ ++ es₅)))))
        ⟨d, token, c, passage, added c (es₄ ++ es₅)⟩ w'

/-- How an invocation ended. -/
inductive Ending where
  /-- There is no function of this id. -/
  | unknown (id : String)
  /-- The pipeline did not end well. -/
  | failed (e : InvocationError)
  /-- It did, but the outputs could not be collected for a panic. -/
  | spoiled (p : Panic)
  | collected (s : SerializedOutputs)

/-- Outputs are collected if the pipeline ended well. The token is looked at again unless they could be,
and the answer is `signalled`. -/
inductive Settles (v : Invoker) (p : Passed) : World → List Event → Ending → Bool → World → Prop
  | collected {w es₁ es₂ result produced s w₁ w'} (passed : p.passage = .ok ())
      (completed : Op.Yields (.onContext p.context .complete) w es₁ result w₁)
      (taken : Op.Yields (.onContext p.context .takeOutputs) w₁ es₂ produced w')
      (collect : SerializedOutputs.collect v.serializers p.definition.outputs produced = .ok s) :
      Settles v p w (es₁ ++ es₂) (.collected s) false w'
  | spoiled {w es₁ es₂ es₃ result produced x signalled w₁ w₂ w'} (passed : p.passage = .ok ())
      (completed : Op.Yields (.onContext p.context .complete) w es₁ result w₁)
      (taken : Op.Yields (.onContext p.context .takeOutputs) w₁ es₂ produced w₂)
      (collect : SerializedOutputs.collect v.serializers p.definition.outputs produced = .error x)
      (asked : Op.Yields (.isSignalled p.token) w₂ es₃ signalled w') :
      Settles v p w (es₁ ++ (es₂ ++ es₃)) (.spoiled x) signalled w'
  | failed {w es₁ es₂ e result signalled w₁ w'} (failed : p.passage = .error e)
      (faulted : Op.Yields (.onContext p.context .fault) w es₁ result w₁)
      (asked : Op.Yields (.isSignalled p.token) w₁ es₂ signalled w') :
      Settles v p w (es₁ ++ es₂) (.failed e) signalled w'

/-- A context is disposed of, with the scope that it has by then. -/
inductive Disposes (c : ContextId) : World → List Event → World → Prop
  | again {w es w'} (marked : Op.Yields (.onContext c .markDisposed) w es false w') : Disposes c w es w'
  | withoutScope {w es₁ es₂ es₃ w₁ w₂ w'} (marked : Op.Yields (.onContext c .markDisposed) w es₁ true w₁)
      (taken : Op.Yields (.onContext c .takeScope) w₁ es₂ none w₂)
      (cleared : Op.Yields (.onContext c .clearItems) w₂ es₃ () w') :
      Disposes c w (es₁ ++ (es₂ ++ es₃)) w'
  | withScope {w es₁ es₂ es₃ es₄ s w₁ w₂ w₃ w'} (marked : Op.Yields (.onContext c .markDisposed) w es₁ true w₁)
      (taken : Op.Yields (.onContext c .takeScope) w₁ es₂ (some s) w₂)
      (disposed : Op.Yields (.disposeScope s) w₂ es₃ () w₃)
      (cleared : Op.Yields (.onContext c .clearItems) w₃ es₄ () w') :
      Disposes c w (es₁ ++ (es₂ ++ (es₃ ++ es₄))) w'

/-- The registration is taken out and the context is disposed of; then the invocation is over. -/
inductive Releases (request : InvocationRequest) (p : Passed) : World → List Event → World → Prop
  | intro {w es₁ es₂ es₃ w₁ w₂ w'}
      (removed : Op.Yields (.removeRegistration ⟨request.invocationId, p.token⟩) w es₁ () w₁)
      (disposed : Disposes p.context w₁ es₂ w₂) (others : Others es₃) (leads : Leads w₂ es₃ w') :
      Releases request p w (es₁ ++ (es₂ ++ es₃)) w'

/-- All that the response of an invocation depends on. -/
structure Course where
  ending : Ending
  attributes : List (String × String) := []
  /-- Whether the token was found signalled when the ending was classified. -/
  signalled : Bool := false

/-- The courses of an invocation. -/
inductive Takes (v : Invoker) (request : InvocationRequest) : World → List Event → Course → World → Prop
  | unknown {w es₁ es₂ w₁ w'} (found : Op.Yields (.findFunction request.functionId) w es₁ none w₁)
      (others : Others es₂) (leads : Leads w₁ es₂ w') :
      Takes v request w (es₁ ++ es₂) { ending := .unknown request.functionId } w'
  | loaded {w es₁ es₂ es₃ p ending signalled w₁ w₂ w'} (passes : Passes v request w es₁ p w₁)
      (settles : Settles v p w₁ es₂ ending signalled w₂) (releases : Releases request p w₂ es₃ w') :
      Takes v request w (es₁ ++ (es₂ ++ es₃)) ⟨ending, p.attributes, signalled⟩ w'

/-! ## Every run takes a course -/

variable {α : Type} {v : Invoker} {request : InvocationRequest} {w w' : World} {es : List Event}
  {r : Except Panic α}

theorem dispose_inv {c : ContextId} {f : Bool → Job α} (h : Job.Run (Job.dispose c >>= f) w es r w') :
    ∃ first es₁ es₂ u, es = es₁ ++ es₂ ∧ Disposes c w es₁ u ∧ Job.Run (f first) u es₂ r w' := by
  obtain ⟨es₁, es₂, first, w₁, rfl, marked, h⟩ := Job.Run.op_inv h
  cases first with
  | false => exact ⟨_, es₁, es₂, w₁, rfl, .again marked, h⟩
  | true =>
    obtain ⟨es₂, es₃, scope, w₂, rfl, taken, h⟩ := Job.Run.op_inv h
    cases scope with
    | none =>
      obtain ⟨es₃, es₄, a, w₃, rfl, cleared, h⟩ := Job.Run.op_inv h
      exact ⟨_, es₁ ++ (es₂ ++ es₃), es₄, w₃, by simp only [List.append_assoc],
        .withoutScope marked taken cleared, h⟩
    | some s =>
      obtain ⟨es₃, es₄, a, w₃, rfl, disposed, h⟩ := Job.Run.op_inv h
      obtain ⟨es₄, es₅, a, w₄, rfl, cleared, h⟩ := Job.Run.op_inv h
      exact ⟨_, es₁ ++ (es₂ ++ (es₃ ++ es₄)), es₅, w₄, by simp only [List.append_assoc],
        .withScope marked taken disposed cleared, h⟩

theorem Executes.leads {c : ContextId} {token : TokenId} {passage : Passage}
    (h : Executes v c token w es passage w') : Leads w es w' := by
  cases h with
  | refused begins => exact begins.leads
  | cancelled begins asked => exact leads_append.2 ⟨_, begins.leads, asked.leads⟩
  | returned begins asked run =>
    exact leads_append.2 ⟨_, begins.leads, leads_append.2 ⟨_, asked.leads, run.leads⟩⟩
  | panicked begins asked run =>
    exact leads_append.2 ⟨_, begins.leads, leads_append.2 ⟨_, asked.leads, run.leads⟩⟩

theorem created_spec {facts : ContextFacts} {c : ContextId} (h : Op.Yields (.newContext facts) w es c w') :
    c < w'.contexts.length ∧ w'.context c = { facts } := by
  obtain ⟨es₁, u, -, -, -, rfl, rfl⟩ := h
  exact context_new facts u

/-- What is read are the attributes that were added since the context was made. -/
theorem read_attributes {c : ContextId} {es' : List Event} {as : List (String × String)} {u : World}
    (hc : c < w.contexts.length) (hnone : (w.context c).attributes = []) (h : Leads w es u)
    (read : Op.Yields (.onContext c .attributes) u es' as w') : as = added c (es ++ es') := by
  obtain ⟨es₁, t, rfl, -, h₁, rfl, -⟩ := read
  have hread := (leads_append.2 ⟨u, h, h₁⟩).attributes hc
  rw [hnone, List.nil_append] at hread
  have hnil : added c [⟨true, .onContext c .attributes, t⟩] = [] := by
    unfold added
    simp only [List.filterMap_cons, if_true, ContextStep.attribute?, List.filterMap_nil]
  rw [← List.append_assoc, added_append, hnil, List.append_nil, ← hread]
  rfl

/-- A function that is loaded stays so. -/
theorem find_perform {id : String} {d : Definition} (op : Op) (h : w.functions.find? id = some d) :
    (World.perform op w).2.functions.find? id = some d := by
  rw [functions_perform]
  cases op with
  | insertFunction new =>
    show ((w.functions.insert new).getD w.functions).find? id = some d
    unfold FunctionTable.insert
    split
    · exact h
    · show (w.functions.definitions ++ [new]).find? (·.id == id) = some d
      rw [List.find?_append, show w.functions.definitions.find? (·.id == id) = some d from h, Option.some_or]
  | _ => exact h

/-- The definition that was found is the one that is found at any time from then on. -/
theorem found_spec {id : String} {d found : Definition} {es' : List Event} {w₀ x : World}
    (hleads : Leads w (es ++ es') w') (hfound : Op.Yields (.findFunction id) w es (some found) w₀)
    (hx : ⟨true, .findFunction id, x⟩ ∈ es ++ es') (hd : x.functions.find? id = some d) : found = d := by
  rcases List.mem_append.1 hx with hnow | hthen
  · have hfirst : some found = x.functions.find? id := hfound.answered hnow
    rw [hd] at hfirst
    cases hfirst
    rfl
  · obtain ⟨es₁, v, rfl, -, -, hv, -⟩ := hfound
    obtain ⟨u, hbefore, hafter⟩ := leads_append.1 hleads
    obtain ⟨u', -, hlast, rfl⟩ := leads_append.1 hbefore
    have hlater := hafter.holds_before (P := fun w => w.functions.find? id = some found)
      (fun e _ => find_perform e.op) hv.symm _ hthen
    rw [show x.functions.find? id = some found from hlater] at hd
    cases hd
    rfl

/-- The response that a course comes to. -/
def answer (v : Invoker) (request : InvocationRequest) (course : Course) : InvocationResponse :=
  let trace := echoTrace request.traceContext course.attributes
  let failed (e : InvocationError) : InvocationResponse :=
    ⟨request.invocationId, [], none, v.classify course.signalled e, trace, request.retryContext⟩
  match course.ending with
  | .unknown id => failed (.functionNotFound id)
  | .failed e => failed e
  | .spoiled p => failed (.panicked p.message)
  | .collected s =>
    ⟨request.invocationId, s.outputs, s.returned, .success, trace, request.retryContext⟩

/-- The end of an invocation that has its response. -/
def finish (request : InvocationRequest) (p : Passed) (response : InvocationResponse) : Job InvocationResponse := do
  Job.op (.removeRegistration ⟨request.invocationId, p.token⟩)
  let _ ← Job.dispose p.context
  return response

/-- What an invocation does when its pipeline has ended. -/
def conclude (v : Invoker) (request : InvocationRequest) (p : Passed) : Job InvocationResponse := do
  match ← v.settle p.context p.definition p.passage with
  | .ok s => finish request p (v.answer request ⟨.collected s, p.attributes, false⟩)
  | .error e =>
    let signalled : Bool ← Job.op (.isSignalled p.token)
    finish request p (v.answer request ⟨.failed e, p.attributes, signalled⟩)

theorem finish_inv {p : Passed} {response : InvocationResponse} {r : Except Panic InvocationResponse}
    (h : Job.Run (finish request p response) w es r w') :
    Releases request p w es w' ∧ r = .ok response := by
  obtain ⟨es₁, es', u, w₁, rfl, removed, h⟩ := Job.Run.op_inv h
  obtain ⟨first, es₂, es₃, w₂, rfl, disposed, others, leads, rfl⟩ := dispose_inv h
  exact ⟨.intro removed disposed others leads, rfl⟩

theorem conclude_inv {p : Passed} {r : Except Panic InvocationResponse}
    (h : Job.Run (v.conclude request p) w es r w') :
    ∃ ending signalled es₁ es₂ u, es = es₁ ++ es₂ ∧ Settles v p w es₁ ending signalled u ∧
      Releases request p u es₂ w' ∧ r = .ok (v.answer request ⟨ending, p.attributes, signalled⟩) := by
  unfold conclude at h
  cases hpassed : p.passage with
  | error e =>
    rw [hpassed] at h
    obtain ⟨es₁, es', result, w₁, rfl, faulted, h⟩ := Job.Run.op_inv h
    obtain ⟨es₂, es', signalled, w₂, rfl, asked, h⟩ := Job.Run.op_inv h
    obtain ⟨releases, hr⟩ := finish_inv h
    exact ⟨_, _, es₁ ++ es₂, es', w₂, by simp only [List.append_assoc], .failed hpassed faulted asked,
      releases, hr⟩
  | ok a =>
    rw [hpassed] at h
    obtain ⟨es₁, es', result, w₁, rfl, completed, h⟩ := Job.Run.op_inv h
    obtain ⟨es₂, es', produced, w₂, rfl, taken, h⟩ := Job.Run.op_inv h
    dsimp only [Routine.bind] at h
    cases hcollect : SerializedOutputs.collect v.serializers p.definition.outputs produced with
    | ok s =>
      rw [hcollect] at h
      obtain ⟨releases, hr⟩ := finish_inv h
      exact ⟨_, _, es₁ ++ es₂, es', w₂, by simp only [List.append_assoc],
        .collected hpassed completed taken hcollect, releases, hr⟩
    | error x =>
      rw [hcollect] at h
      obtain ⟨es₃, es', signalled, w₃, rfl, asked, h⟩ := Job.Run.op_inv h
      obtain ⟨releases, hr⟩ := finish_inv h
      exact ⟨_, _, es₁ ++ (es₂ ++ es₃), es', w₃, by simp only [List.append_assoc],
        .spoiled hpassed completed taken hcollect asked, releases, hr⟩

/-- Every run of an invocation takes a course and ends with the response to it. -/
theorem invoke_takes {r : Except Panic InvocationResponse} (h : Job.Run (v.invoke request) w es r w') :
    ∃ course, Takes v request w es course w' ∧ r = .ok (v.answer request course) := by
  obtain ⟨es₀, es', found, w₀, rfl, found', h⟩ := Job.Run.op_inv h
  cases found with
  | none => exact ⟨_, .unknown found' h.1 h.2.1, h.2.2⟩
  | some d =>
    obtain ⟨es₁, es', token, w₁, rfl, drawn, h⟩ := Job.Run.op_inv h
    obtain ⟨es₂, es', u, w₂, rfl, registered, h⟩ := Job.Run.op_inv h
    obtain ⟨es₃, es', c, w₃, rfl, created, h⟩ := Job.Run.op_inv h
    obtain ⟨passage, es₄, es', w₄, rfl, executed, h⟩ := execute_inv h
    obtain ⟨es₅, es', as, w₅, rfl, read, h⟩ := Job.Run.op_inv h
    obtain ⟨hc, hnew⟩ := created_spec created
    obtain rfl := read_attributes hc (by rw [hnew]) executed.leads read
    have passes : Passes v request w _ _ _ := .intro found' drawn registered created executed read
    -- the rest of the invocation depends on nothing but what it has passed
    have h : Job.Run (v.conclude request ⟨d, token, c, passage, added c (es₄ ++ es₅)⟩) w₅ es' r w' := h
    obtain ⟨ending, signalled, es₆, es₇, w₆, rfl, settles, releases, rfl⟩ := conclude_inv h
    refine ⟨_, ?_, rfl⟩
    have := Takes.loaded passes settles releases
    simpa only [List.append_assoc] using this

/-- A function that is loaded from the start is found when it is looked for. -/
theorem invoke_looks {d : Definition} {r : Except Panic InvocationResponse}
    (h : Job.Run (v.invoke request) w es r w') (hd : w.functions.find? request.functionId = some d) :
    ∃ x, ⟨true, .findFunction request.functionId, x⟩ ∈ es ∧ x.functions.find? request.functionId = some d := by
  obtain ⟨es₁, es₂, found, w₀, rfl, ⟨others, x, rfl, -, hleads, -⟩, -⟩ := Job.Run.op_inv h
  refine ⟨x, List.mem_append_left _ (List.mem_append_right _ (List.mem_singleton_self _)), ?_⟩
  exact hleads.keeps (P := fun w => w.functions.find? request.functionId = some d)
    (fun e _ => find_perform e.op) hd

end Invoker

end FunctionWorker
