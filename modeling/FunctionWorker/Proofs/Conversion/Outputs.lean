/-
Outputs that converters make. The converter for outputs makes one for the parameter and the invocation that it
is asked about, and no other converter of the standard chain makes any; so whatever output is bound to a
parameter, by this chain or by one to which converters that are as honest were added, is the output of that
parameter.
-/
import FunctionWorker.Invocation.Pipeline
import FunctionWorker.Proofs.Conversion.Chain
import FunctionWorker.Proofs.World.Run

namespace FunctionWorker

variable {c : ContextId} {w w' : World} {es : List Event}

/-! ## Honest converters -/

/-- A converter makes an output only for the parameter and the invocation that it is asked about. -/
def Converter.Honest (x : Converter) : Prop :=
  ∀ r w es slot w', Job.Run (Code.job (x.convert r)) w es (.ok (.succeeded (.output slot))) w' →
    slot.name = r.parameter.name ∧ slot.context = r.context

/-- A chain of such converters. -/
def ConverterChain.Honest (chain : ConverterChain) : Prop := ∀ x ∈ chain.converters, x.Honest

/-- A conversion that makes no output. -/
def Conversion.MakesNone (x : Conversion) : Prop := ∀ slot, x ≠ .succeeded (.output slot)

namespace Builtin

variable {v : WireValue} {r : BindingRequest} {α : Type}

theorem withText_makesNone {read : String → Conversion} (h : ∀ s, (read s).MakesNone) :
    (withText v read).MakesNone := by
  unfold withText
  split
  · exact h _
  · exact nofun
  · exact nofun

theorem parsed_makesNone {make : α → Datum} (h : ∀ a, (Conversion.succeeded (make a)).MakesNone) (bare : String)
    (e : Except String α) : (parsed bare make e).MakesNone := by
  cases e with
  | ok a => exact h a
  | error reason => exact nofun

theorem jsonArray_makesNone {item : Json.Raw → Option α} {make : List α → Datum}
    (h : ∀ items, (Conversion.succeeded (make items)).MakesNone) (s : String) :
    (jsonArray item make s).MakesNone := by
  unfold jsonArray
  split
  · exact h _
  · exact nofun

theorem integer_makesNone {b : Integer.Bounds} {make : Int → Datum}
    (h : ∀ i, (Conversion.succeeded (make i)).MakesNone) : (integer b make v).MakesNone := by
  unfold integer
  exact withText_makesNone fun s => parsed_makesNone h (bare s) _

theorem identity_makesNone : (identity r).MakesNone := by
  unfold identity
  split <;> exact nofun

theorem context_makesNone : (context r).MakesNone := by
  unfold context
  split <;> exact nofun

theorem collection_makesNone : (collection r).MakesNone := by
  unfold collection
  split
  case h_1 | h_2 | h_3 | h_4 =>
    refine jsonArray_makesNone ?_ _
    exact fun _ => nofun
  case h_5 => split <;> exact nofun
  all_goals exact nofun

theorem primitive_makesNone : (primitive r).MakesNone := by
  unfold primitive
  split
  · exact nofun
  · split
    case h_1 => exact withText_makesNone fun _ => nofun
    case h_2 => split <;> exact nofun
    case h_3 | h_8 =>
      refine withText_makesNone fun s => parsed_makesNone ?_ (bare s) _
      exact fun _ => nofun
    case h_4 | h_5 | h_6 | h_7 =>
      refine integer_makesNone ?_
      exact fun _ => nofun
    case h_9 => exact nofun

theorem json_makesNone : (json r).MakesNone := by
  unfold json
  split
  · refine withText_makesNone fun s => ?_
    split <;> exact nofun
  · exact nofun

end Builtin

theorem Converter.honest_of {label : String} {f : BindingRequest → Conversion}
    (h : ∀ r slot, f r = .succeeded (.output slot) → slot.name = r.parameter.name ∧ slot.context = r.context) :
    (Converter.ofFunction label f).Honest := fun r _ _ slot _ run => h r slot (Except.ok.inj run.2.2).symm

theorem Converter.honest_of_makesNone {label : String} {f : BindingRequest → Conversion} (h : ∀ r, (f r).MakesNone) :
    (Converter.ofFunction label f).Honest := honest_of fun r slot hmade => absurd hmade (h r slot)

theorem ConverterChain.standard_honest : standard.Honest := by
  intro x hx
  rcases hx with _ | ⟨_, _ | ⟨_, _ | ⟨_, _ | ⟨_, _ | ⟨_, _ | ⟨_, hx⟩⟩⟩⟩⟩⟩
  · exact Converter.honest_of_makesNone fun _ => Builtin.identity_makesNone
  · exact Converter.honest_of_makesNone fun _ => Builtin.context_makesNone
  · refine Converter.honest_of fun r slot hmade => ?_
    unfold Builtin.output at hmade
    split at hmade
    · cases hmade
      exact ⟨rfl, rfl⟩
    · cases hmade
  · exact Converter.honest_of_makesNone fun _ => Builtin.collection_makesNone
  · exact Converter.honest_of_makesNone fun _ => Builtin.primitive_makesNone
  · exact Converter.honest_of_makesNone fun _ => Builtin.json_makesNone
  · cases hx

/-- What a chain of honest converters makes is honest. -/
theorem ConverterChain.convertWith_honest {r : BindingRequest} {slot : OutputSlot} {label : String} :
    ∀ {converters : List Converter} {failure : Option String} {w : World} {es : List Event},
      (∀ x ∈ converters, x.Honest) →
      Job.Run (convertWith r failure converters) w es (.ok (.ok ⟨.output slot, label⟩)) w' →
      slot.name = r.parameter.name ∧ slot.context = r.context
  | [], _, _, _, _, run => nomatch run.2.2
  | x :: xs, failure, w, es, h, run => by
    rcases Job.Run.bind_inv run with ⟨conversion, es₁, es₂, v, rfl, hx, run⟩ | ⟨_, hpanic, -⟩
    · cases conversion with
      | succeeded value =>
        obtain ⟨-, -, heq⟩ := run
        cases heq
        exact h x (List.mem_cons_self ..) r _ _ _ _ hx
      | failed reason => exact convertWith_honest (fun y hy => h y (List.mem_cons_of_mem _ hy)) run
      | unhandled => exact convertWith_honest (fun y hy => h y (List.mem_cons_of_mem _ hy)) run
    · cases hpanic

namespace Pipeline

variable {facts : ContextFacts} {p : Parameter}

/-- An output that is bound to a parameter is one of its name and of the invocation that it is bound for. -/
theorem bindParameter_honest {chain : ConverterChain} (hchain : chain.Honest) {slot : OutputSlot}
    (run : Job.Run (bindParameter chain c facts p) w es (.ok (.ok (.output slot))) w') :
    slot.name = p.name ∧ slot.context = c := by
  unfold bindParameter at run
  cases hown : own? c facts p with
  | some value =>
    rw [hown] at run
    obtain ⟨-, -, heq⟩ := run
    cases heq
    unfold own? at hown
    split at hown <;> cases hown
  | none =>
    rw [hown] at run
    rcases Job.Run.bind_inv run with ⟨converted, es₁, es₂, v, rfl, hconvert, -, -, heq⟩ | ⟨_, hpanic, -⟩
    · cases converted with
      | error e => cases heq
      | ok converted =>
        obtain ⟨value, label⟩ := converted
        obtain rfl : Datum.output slot = value := Except.ok.inj (Except.ok.inj heq)
        exact ConverterChain.convertWith_honest hchain hconvert
    · cases hpanic

/-- The standard chain binds an output to every output parameter that takes one. -/
theorem bindParameter_output (hrole : p.role = .output) {element : String} (hshape : p.type.shape = .output element) :
    bindParameter .standard c facts p = .done (.ok (.output ⟨element, p.name, c⟩)) := by
  have hown : own? c facts p = none := by
    unfold own?
    rw [hrole]
  have hidentity : Builtin.identity ⟨p, sourceOf facts p, c, facts.token⟩ = .unhandled := by
    unfold Builtin.identity
    rw [hshape]
  have hcontext : Builtin.context ⟨p, sourceOf facts p, c, facts.token⟩ = .unhandled := by
    unfold Builtin.context
    rw [hshape]
  have houtput : Builtin.output ⟨p, sourceOf facts p, c, facts.token⟩ = .succeeded (.output ⟨element, p.name, c⟩) := by
    unfold Builtin.output
    rw [hshape]
  unfold bindParameter
  rw [hown]
  show ConverterChain.standard.convert _ >>= _ = _
  rw [ConverterChain.convert_output hidentity hcontext houtput]
  rfl

end Pipeline

end FunctionWorker
