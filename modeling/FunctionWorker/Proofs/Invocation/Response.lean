/-
The response of an invocation. There is always one, it carries what the request says about itself,
and its status says how the invocation ended. What an invocation produced is in the response only if
all of it could be.
-/
import FunctionWorker.Proofs.Invocation.Course

namespace FunctionWorker.Invoker

/-! ## Endings -/

/-- The error of an ending. -/
def Ending.error? : Ending → Option InvocationError
  | .unknown id => some (.functionNotFound id)
  | .failed e => some e
  | .spoiled p => some (.panicked p.message)
  | .collected _ => none

/-- The trace context of a response: the one of the request with the attributes that were added. -/
structure Echoes (trace : Option TraceContext) (attributes : List (String × String))
    (echoed : Option TraceContext) : Prop where
  untouched : attributes = [] → echoed = trace
  extended : attributes ≠ [] → ∀ t, trace = some t →
    echoed = some { t with attributes := t.attributes ++ attributes }
  fresh : attributes ≠ [] → trace = none → echoed = some { attributes }

/-- What a response tells of the course of its invocation. -/
structure Answers (v : Invoker) (request : InvocationRequest) (course : Course)
    (response : InvocationResponse) : Prop where
  invocationId : response.invocationId = request.invocationId
  retryContext : response.retryContext = request.retryContext
  trace : Echoes request.traceContext course.attributes response.traceContext
  success_iff : response.result.status = .success ↔ ∃ s, course.ending = .collected s
  cancelled_iff : response.result.status = .cancelled ↔
    ∃ e, course.ending.error? = some e ∧
      (e = .cancelled ∨ course.signalled = true ∧ e.isUserFault = false)
  cancelled_silent : response.result.status = .cancelled → response.result.exception = none
  failure : response.result.status = .failure → ∃ e x, course.ending.error? = some e ∧
    response.result.exception = some x ∧
    (x.isUser = true ↔ e.isUserFault = true ∧ v.showUserErrors = true)
  produced : ∀ s, course.ending = .collected s →
    response.outputs = s.outputs ∧ response.returnValue = s.returned
  withheld : response.result.status ≠ .success → response.outputs = [] ∧ response.returnValue = none

/-! ## Classification -/

variable {v : Invoker} {request : InvocationRequest} {course : Course}

/-- The error that classification calls a cancellation. -/
theorem classify_cancelled {signalled : Bool} {e : InvocationError}
    (h : e = .cancelled ∨ signalled = true ∧ e.isUserFault = false) :
    v.classify signalled e = .cancelled none := by
  unfold classify
  rcases h with rfl | ⟨rfl, he⟩
  · rfl
  · rw [he, Bool.not_false, Bool.and_true, Bool.or_true, if_pos rfl]

theorem classify_failure {signalled : Bool} {e : InvocationError}
    (h : ¬ (e = .cancelled ∨ signalled = true ∧ e.isUserFault = false)) :
    v.classify signalled e = .failure (e.exception v.showUserErrors) := by
  unfold classify InvocationError.isCancellation
  rw [if_neg]
  intro hor
  rw [Bool.or_eq_true, beq_iff_eq, Bool.and_eq_true, Bool.not_eq_true'] at hor
  exact h hor

/-- An exception is marked as one of function code if function code is to blame and may be shown. -/
theorem exception_isUser (shown : Bool) (e : InvocationError) :
    (e.exception shown).isUser = (e.isUserFault && shown) := by
  cases e <;> cases shown <;> rfl

theorem echoTrace_echoes (trace : Option TraceContext) (attributes : List (String × String)) :
    Echoes trace attributes (echoTrace trace attributes) := by
  have hadded (h : attributes ≠ []) : echoTrace trace attributes =
      some { trace.getD {} with attributes := (trace.getD {}).attributes ++ attributes } := by
    unfold echoTrace
    rw [if_neg (by rwa [List.isEmpty_iff])]
  refine ⟨?_, ?_, ?_⟩
  · rintro rfl
    rfl
  · rintro h t rfl
    exact hadded h
  · rintro h rfl
    exact hadded h

/-! ## Responses -/

/-- The response to an ending with an error. -/
theorem answer_of_error {e : InvocationError} (h : course.ending.error? = some e) :
    v.answer request course =
      ⟨request.invocationId, [], none, v.classify course.signalled e,
        echoTrace request.traceContext course.attributes, request.retryContext⟩ := by
  obtain ⟨ending, attributes, signalled⟩ := course
  cases ending <;> cases h <;> rfl

/-- The response to outputs that were collected. -/
theorem answer_of_collected {s : SerializedOutputs} (h : course.ending = .collected s) :
    v.answer request course =
      ⟨request.invocationId, s.outputs, s.returned, .success,
        echoTrace request.traceContext course.attributes, request.retryContext⟩ := by
  unfold answer
  rw [h]

theorem ending_cases (ending : Ending) :
    (∃ s, ending = .collected s) ∨ ∃ e, ending.error? = some e := by
  cases ending with
  | collected s => exact .inl ⟨s, rfl⟩
  | _ => exact .inr ⟨_, rfl⟩

theorem answer_answers (v : Invoker) (request : InvocationRequest) (course : Course) :
    Answers v request course (v.answer request course) := by
  rcases ending_cases course.ending with ⟨s, h⟩ | ⟨e, h⟩
  · have hnone : course.ending.error? = none := by
      rw [h]
      rfl
    rw [answer_of_collected h]
    refine ⟨rfl, rfl, echoTrace_echoes .., ⟨fun _ => ⟨s, h⟩, fun _ => rfl⟩, ⟨nofun, ?_⟩, nofun, nofun, ?_,
      fun hs => absurd rfl hs⟩
    · rintro ⟨e, he, -⟩
      rw [hnone] at he
      cases he
    · intro s' hs
      rw [h] at hs
      cases hs
      exact ⟨rfl, rfl⟩
  · have hnot : ∀ s, course.ending ≠ .collected s := by
      intro s hs
      rw [hs] at h
      cases h
    rw [answer_of_error h]
    by_cases hc : e = .cancelled ∨ course.signalled = true ∧ e.isUserFault = false
    · rw [classify_cancelled hc]
      exact ⟨rfl, rfl, echoTrace_echoes .., ⟨nofun, fun ⟨s, hs⟩ => absurd hs (hnot s)⟩,
        ⟨fun _ => ⟨e, h, hc⟩, fun _ => rfl⟩, fun _ => rfl, nofun, fun s hs => absurd hs (hnot s),
        fun _ => ⟨rfl, rfl⟩⟩
    · rw [classify_failure hc]
      refine ⟨rfl, rfl, echoTrace_echoes .., ⟨nofun, fun ⟨s, hs⟩ => absurd hs (hnot s)⟩, ⟨nofun, ?_⟩, nofun,
        fun _ => ⟨e, _, h, rfl, ?_⟩, fun s hs => absurd hs (hnot s), fun _ => ⟨rfl, rfl⟩⟩
      · rintro ⟨e', he', hc'⟩
        rw [h] at he'
        cases he'
        exact absurd hc' hc
      · rw [exception_isUser, Bool.and_eq_true]

/-- Whatever middleware, converters, the function and serializers do, and whatever goes on besides, an
invocation comes to one response, which tells how its course ended. -/
theorem invoke_answers (v : Invoker) (request : InvocationRequest) (w : World) :
    (∃ es response w', Job.Run (v.invoke request) w es (.ok response) w') ∧
    ∀ es r w', Job.Run (v.invoke request) w es r w' →
      ∃ response course, r = .ok response ∧ Takes v request w es course w' ∧
        Answers v request course response := by
  have hanswers : ∀ es r w', Job.Run (v.invoke request) w es r w' →
      ∃ response course, r = .ok response ∧ Takes v request w es course w' ∧
        Answers v request course response := by
    intro es r w' h
    obtain ⟨course, htakes, rfl⟩ := invoke_takes h
    exact ⟨_, course, rfl, htakes, answer_answers v request course⟩
  obtain ⟨es, -, hrun⟩ := Job.run_alone (v.invoke request) w
  obtain ⟨response, -, hr, -⟩ := hanswers _ _ _ hrun
  exact ⟨⟨es, response, _, hr ▸ hrun⟩, hanswers⟩

/-- An invoker whose middleware adds an attribute and whose function returns a text. -/
def greeter : Invoker where
  pipeline :=
    { handlers := fun _ _ => .done (.ok { returned := some (.text "hello") })
      middleware := [fun c _ => do
        let _ : Unit ← Code.ask (.addAttribute c "step" "1")
        return .proceed fun result => return result] }

/-- A world in which one function is loaded. -/
def greeterWorld : World where
  functions := ⟨[{ id := "f", name := "greet", entryPoint := "greet", outputs := ["$return"], handler := 0 }]⟩

def greeterRequest : InvocationRequest where
  invocationId := "i"
  functionId := "f"
  inputs := []
  triggerMetadata := []
  traceContext := none
  retryContext := some ⟨1, 3, none⟩

def greeterResponse : InvocationResponse where
  invocationId := "i"
  outputs := []
  returnValue := some (.text "hello")
  result := .success
  traceContext := some { attributes := [("step", "1")] }
  retryContext := some ⟨1, 3, none⟩

theorem invoke_answers_greeter :
    ∃ es w' course, Job.Run (greeter.invoke greeterRequest) greeterWorld es (.ok greeterResponse) w' ∧
      Takes greeter greeterRequest greeterWorld es course w' ∧
      Answers greeter greeterRequest course greeterResponse := by
  obtain ⟨es, -, hrun⟩ := Job.run_alone (greeter.invoke greeterRequest) greeterWorld
  have hr : (Routine.run Effect.alone (greeter.invoke greeterRequest) greeterWorld).1 =
      .ok greeterResponse := by decide +kernel
  rw [hr] at hrun
  obtain ⟨response, course, h, htakes, hanswers⟩ :=
    (invoke_answers greeter greeterRequest greeterWorld).2 _ _ _ hrun
  cases h
  exact ⟨es, _, course, hrun, htakes, hanswers⟩

end FunctionWorker.Invoker
