/-
Outputs that functions set through their parameters. When an entry is loaded, each of its output parameters is
looked up among the bindings in effect; when a function sets an output, its name is looked up among the declared
ones. The two agree on every list of bindings, so an entry is loaded just when its output parameters can be set,
and what is bound to such a parameter is never refused for a name that is not declared.
-/
import FunctionWorker.Proofs.Conversion.Outputs
import FunctionWorker.Proofs.Invocation.Outputs
import FunctionWorker.Proofs.Invocation.Pipeline
import FunctionWorker.Proofs.Worker.Loading

namespace FunctionWorker

variable {d : Definition} {name : String} {c : ContextId} {w w' : World} {es : List Event}

/-! ## Declared outputs -/

/-- The outputs among bindings are found by their names as the bindings are. -/
theorem Definition.declaresOutput_outputNames {bindings : List (String × BindingInfo)}
    (h : d.outputs = CatalogEntry.outputNames bindings) (name : String) :
    d.declaresOutput name = CatalogEntry.declaresOutput bindings name := by
  unfold Definition.declaresOutput Definition.outputName CatalogEntry.declaresOutput
  rw [h, List.isSome_find?, CatalogEntry.outputNames, List.any_map, List.any_filter]
  exact congrArg bindings.any (funext fun b => Bool.and_comm ..)

/-! ## Outputs that can be set -/

/-- A context of a definition takes every value under a name as long as it is executing, whatever other tasks do
to it meanwhile. -/
def Definition.Accepts (d : Definition) (name : String) : Prop :=
  ∀ c w es r w' value, c < w.contexts.length → (w.context c).facts.definition = d →
    (∀ e ∈ es, (e.before.context c).state = .executing) → Job.Run (Job.setOutput c name value) w es r w' →
    r = .ok (.ok ())

/-- No context of a definition, in whatever state, refuses a name for not being declared. -/
def Definition.Knows (d : Definition) (name : String) : Prop :=
  ∀ c w es r w' value, c < w.contexts.length → (w.context c).facts.definition = d →
    Job.Run (Job.setOutput c name value) w es r w' → ∀ n, r ≠ .ok (.error (.undeclaredOutput n))

/-- A call that sets an output is refused by the state of the context when it is looked at, or else answered by
the name. -/
theorem setOutput_inv {value : OutputValue} {r : Except Panic (Except ContextError Unit)}
    (hc : c < w.contexts.length) (run : Job.Run (Job.setOutput c name value) w es r w') :
    (∃ e ∈ es, ∃ refusal, (e.before.context c).checkExecuting = .error refusal ∧ r = .ok (.error refusal)) ∨
    r = .ok ((w.context c).facts.definition.answer (name, value)) := by
  obtain ⟨es₁, es', checked, w₁, rfl, hcheck, run⟩ := Job.Run.op_inv run
  obtain ⟨hc₁, hkept₁⟩ := hcheck.leads.facts hc
  obtain ⟨others, v, rfl, -, -, hchecked, -⟩ := hcheck
  cases checked with
  | error refusal =>
    obtain ⟨-, -, rfl⟩ := run
    have hlooked : (⟨true, .onContext c .checkExecuting, v⟩ : Event) ∈
        others ++ [⟨true, .onContext c .checkExecuting, v⟩] ++ es' := by simp
    exact .inl ⟨_, hlooked, refusal, hchecked.symm, rfl⟩
  | ok =>
    -- what the context was made with is found as it was
    obtain ⟨es₂, es'', facts, w₂, rfl, hfacts, run⟩ := Job.Run.op_inv run
    obtain ⟨others', v', rfl, -, hleads, rfl, -⟩ := hfacts
    have hsame : (World.perform (.onContext c .facts) v').1.definition = (w.context c).facts.definition :=
      congrArg ContextFacts.definition ((hleads.facts hc₁).2.trans hkept₁)
    rw [hsame] at run
    unfold Definition.answer Definition.declaresOutput
    cases hname : (w.context c).facts.definition.outputName name with
    | none =>
      rw [hname] at run
      exact .inr run.2.2
    | some declared =>
      rw [hname] at run
      obtain ⟨_, _, _, _, -, -, -, -, rfl⟩ := Job.Run.op_inv run
      exact .inr rfl

/-- A context that is not executing says so, or that it is disposed of. -/
theorem checkExecuting_ne {x : Context} {n : String} : x.checkExecuting ≠ .error (.undeclaredOutput n) := by
  unfold Context.checkExecuting
  split <;> nofun

theorem checkExecuting_eq_ok {x : Context} : x.checkExecuting = .ok () ↔ x.state = .executing := by
  unfold Context.checkExecuting
  split <;> simp_all

theorem Definition.accepts_of_declares (h : d.declaresOutput name = true) : d.Accepts name := by
  rintro c w es r w' value hc rfl hexecuting run
  rcases setOutput_inv hc run with ⟨e, he, refusal, hrefused, -⟩ | hanswer
  · rw [checkExecuting_eq_ok.2 (hexecuting e he)] at hrefused
    cases hrefused
  · rw [hanswer, Definition.answer_eq_ok.2 h]

theorem Definition.knows_of_declares (h : d.declaresOutput name = true) : d.Knows name := by
  rintro c w es r w' value hc rfl run n rfl
  rcases setOutput_inv hc run with ⟨e, -, refusal, hrefused, heq⟩ | hanswer
  · cases heq
    exact checkExecuting_ne hrefused
  · rw [Definition.answer_eq_ok.2 h] at hanswer
    cases hanswer

/-- A context of a definition that is executing, alone in its world. -/
def Definition.bench (d : Definition) : World where
  contexts := [{ facts := { invocationId := "", definition := d, token := 0 }, state := .executing }]

/-- A call that sets an output leaves the state of the context alone. -/
theorem setOutput_asks (c : ContextId) (name : String) (value : OutputValue) :
    Job.AsksOnly (fun op => ∃ s, op = .onContext c s ∧ ∀ x, (s.perform x).2.state = x.state)
      (Job.setOutput c name value) := by
  refine Job.asksOnly_of_asks (Work.Asks.bind (fun checked => ?_) (.own ⟨_, rfl, fun _ => rfl⟩))
  cases checked with
  | error e => exact trivial
  | ok =>
    refine Work.Asks.bind (fun facts => ?_) (.own ⟨_, rfl, fun _ => rfl⟩)
    split
    · exact trivial
    · exact Work.Asks.bind (fun _ => .done _) (.own ⟨_, rfl, fun _ => rfl⟩)

/-- On a bench the context is executing all the time, and the call is answered by the name. -/
theorem Definition.bench_run (d : Definition) (name : String) (value : OutputValue) : ∃ es w',
    (∀ e ∈ es, (e.before.context 0).state = .executing) ∧
    Job.Run (Job.setOutput 0 name value) d.bench es (.ok (d.answer (name, value))) w' := by
  obtain ⟨es, hmine, run⟩ := Job.run_alone (Job.setOutput 0 name value) d.bench
  have hexecuting : ∀ e ∈ es, 0 < e.before.contexts.length ∧ (e.before.context 0).state = .executing := by
    refine run.leads.holds_before (P := fun v => 0 < v.contexts.length ∧ (v.context 0).state = .executing)
      (fun e he ⟨hknown, hstate⟩ => ⟨hknown.trans_le e.length_le, ?_⟩) ⟨Nat.one_pos, rfl⟩
    obtain ⟨s, hop, hkeeps⟩ := run.own (setOutput_asks 0 name value) e he (hmine e he)
    rw [e.context_after hknown, hop]
    exact (hkeeps _).trans hstate
  rcases setOutput_inv Nat.one_pos run with ⟨e, he, refusal, hrefused, -⟩ | hanswer
  · rw [checkExecuting_eq_ok.2 (hexecuting e he).2] at hrefused
    cases hrefused
  · rw [hanswer] at run
    exact ⟨es, _, fun e he => (hexecuting e he).2, run⟩

theorem Definition.accepts_iff : d.Accepts name ↔ d.declaresOutput name = true := by
  refine ⟨fun h => ?_, Definition.accepts_of_declares⟩
  obtain ⟨es, w', hexecuting, run⟩ := d.bench_run name (.text "")
  have hanswer := h 0 d.bench es _ w' _ Nat.one_pos rfl hexecuting run
  by_contra hundeclared
  rw [Definition.answer, if_neg hundeclared] at hanswer
  cases hanswer

/-! ## Loading -/

namespace CatalogEntry

/-- An entry is loaded just when contexts whose outputs are those among the bindings in effect accept each of its
output parameters; and what is bound to an output parameter of a loaded function sets an output of the invocation
that is accepted as long as the context is executing, and is never refused for not being declared. -/
theorem instantiate_iff_accepted (e : CatalogEntry) (r : LoadRequest) :
    ((∃ d, e.instantiate r = .ok d) ↔ ∀ p ∈ e.parameters, p.role = .output →
      ∀ d : Definition, d.outputs = outputNames (e.effectiveBindings r.metadata) → d.Accepts p.name) ∧
    ∀ d, e.instantiate r = .ok d → ∀ p ∈ d.parameters, p.role = .output →
      (∀ element c facts, p.type.shape = .output element →
        Pipeline.bindParameter .standard c facts p = .done (.ok (.output ⟨element, p.name, c⟩))) ∧
      ∀ (chain : ConverterChain) c facts w es slot w', chain.Honest →
        Job.Run (Pipeline.bindParameter chain c facts p) w es (.ok (.ok (.output slot))) w' →
        slot.context = c ∧ d.Accepts slot.name ∧ d.Knows slot.name := by
  refine ⟨⟨?_, ?_⟩, ?_⟩
  · rintro ⟨d, hd⟩ p hp hrole d' houtputs
    rcases e.instantiate_cases r with ⟨hsupplied, -⟩ | ⟨q, -, -, -, herror⟩
    · rw [Definition.accepts_iff, Definition.declaresOutput_outputNames houtputs]
      exact hsupplied p hp hrole
    · rw [herror] at hd
      cases hd
  · intro haccepted
    refine ⟨e.definition r, instantiate_of_supplied fun p hp hrole => ?_⟩
    have houtputs : (e.definition r).outputs = outputNames (e.effectiveBindings r.metadata) := rfl
    rw [← Definition.declaresOutput_outputNames houtputs, ← Definition.accepts_iff]
    exact haccepted p hp hrole _ houtputs
  · intro d hd p hp hrole
    refine ⟨fun element c facts => Pipeline.bindParameter_output hrole, ?_⟩
    intro chain c facts w es slot w' hchain run
    obtain ⟨hname, hcontext⟩ := Pipeline.bindParameter_honest hchain run
    rcases e.instantiate_cases r with ⟨hsupplied, hok⟩ | ⟨q, -, -, -, herror⟩
    · rw [hok] at hd
      cases hd
      have hdeclares : (e.definition r).declaresOutput slot.name = true := by
        rw [Definition.declaresOutput_outputNames rfl, hname]
        exact hsupplied p hp hrole
      exact ⟨hcontext, Definition.accepts_iff.2 hdeclares, Definition.knows_of_declares hdeclares⟩
    · rw [herror] at hd
      cases hd

/-! An entry whose output parameter was added with a binding of both directions; one host respells and repeats the
binding, another one leaves the output out. -/

def courier : CatalogEntry :=
  (ofHandler "courier" 0).parameter ⟨"Queue", .output TypeName.text, .output⟩ ⟨"queue", .both⟩

def respelled : LoadRequest where
  functionId := "7"
  metadata := { bindings := [("queue", ⟨"queueTrigger", .input⟩), ("QUEUE", ⟨"queue", .output⟩),
    ("queue", ⟨"queue", .both⟩)] }

def withheld : LoadRequest where
  functionId := "7"
  metadata := { bindings := [("queue", ⟨"queueTrigger", .input⟩)] }

theorem instantiate_iff_accepted_courier :
    (∃ d, courier.instantiate respelled = .ok d ∧ d.outputs = ["QUEUE", "queue"] ∧
      ∃ es w', Job.Run (Job.setOutput 0 "Queue" (.text "a")) d.bench es (.ok (.ok ())) w') ∧
    ¬ ∃ d, courier.instantiate withheld = .ok d := by
  have hupper : Text.fold "QUEUE" = "queue" := Text.fold_eq_iff.2 (by decide)
  have hmixed : Text.fold "Queue" = "queue" := Text.fold_eq_iff.2 (by decide)
  have hsame : Text.sameName "QUEUE" "Queue" = true := beq_iff_eq.2 (hupper.trans hmixed.symm)
  have hsupplied : courier.Supplied (courier.effectiveBindings respelled.metadata) := by
    rintro p (_ | ⟨_, h⟩) -
    · simp [declaresOutput, effectiveBindings, respelled, Direction.isOutput, hsame]
    · cases h
  have hloaded := instantiate_of_supplied hsupplied
  refine ⟨⟨_, hloaded, rfl, ?_⟩, ?_⟩
  · obtain ⟨hbound, hset⟩ := (instantiate_iff_accepted courier respelled).2 _ hloaded _ (List.mem_cons_self ..) rfl
    have hrun : Job.Run (Pipeline.bindParameter .standard 0 default ⟨"Queue", .output TypeName.text, .output⟩)
        (courier.definition respelled).bench [] (.ok (.ok (.output ⟨TypeName.text, "Queue", 0⟩)))
        (courier.definition respelled).bench := by
      rw [hbound TypeName.text 0 default rfl]
      exact ⟨others_nil, rfl, rfl⟩
    obtain ⟨-, haccepts, -⟩ := hset _ _ _ _ _ _ _ ConverterChain.standard_honest hrun
    obtain ⟨es, w', hexecuting, run⟩ := (courier.definition respelled).bench_run "Queue" (.text "a")
    have hanswer := haccepts _ _ _ _ _ _ Nat.one_pos rfl hexecuting run
    rw [hanswer] at run
    exact ⟨es, w', run⟩
  · intro hok
    have haccepts := (instantiate_iff_accepted courier withheld).1.1 hok _ (List.mem_cons_self ..) rfl
      (courier.definition withheld) rfl
    rw [Definition.accepts_iff] at haccepts
    cases haccepts

end CatalogEntry

end FunctionWorker
