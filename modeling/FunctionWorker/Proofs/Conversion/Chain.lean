/-
What the standard chain makes of a request that one of its converters takes up and the others leave alone: the
answer of that one, under its name.
-/
import FunctionWorker.Conversion.Chain

namespace FunctionWorker.ConverterChain

variable {r : BindingRequest} {name : String} {f : BindingRequest → Conversion} {failure : Option String}
  {rest : List Converter} {d : Datum} {reason : String}

/-! ## One converter -/

theorem convertWith_of_succeeded (h : f r = .succeeded d) :
    convertWith r failure (.ofFunction name f :: rest) = .done (.ok ⟨d, name⟩) := by
  have hasks : (Converter.ofFunction name f).convert r = .done (.succeeded d) := congrArg Routine.done h
  rw [convertWith, hasks]
  rfl

theorem convertWith_of_unhandled (h : f r = .unhandled) :
    convertWith r failure (.ofFunction name f :: rest) = convertWith r failure rest := by
  have hasks : (Converter.ofFunction name f).convert r = .done .unhandled := congrArg Routine.done h
  rw [convertWith, hasks]
  rfl

theorem convertWith_of_failed (h : f r = .failed reason) :
    convertWith r failure (.ofFunction name f :: rest) =
      convertWith r (failure.or (some (name ++ ": " ++ reason))) rest := by
  have hasks : (Converter.ofFunction name f).convert r = .done (.failed reason) := congrArg Routine.done h
  rw [convertWith, hasks]
  rfl

/-! ## The standard chain -/

/-- The answer to a request that one converter alone takes up, by what that one makes of it. -/
def answer (r : BindingRequest) (name : String) : Conversion → Except ConversionError Converted
  | .succeeded value => .ok ⟨value, name⟩
  | .failed reason => .error (exhausted r (some (name ++ ": " ++ reason)))
  | .unhandled => .error (exhausted r none)

/-- A value of the shape that is asked for passes as it is. -/
theorem convert_identity (h : Builtin.identity r = .succeeded d) :
    standard.convert r = .done (.ok ⟨d, "identity"⟩) := convertWith_of_succeeded h

theorem convert_output (hidentity : Builtin.identity r = .unhandled) (hcontext : Builtin.context r = .unhandled)
    (h : Builtin.output r = .succeeded d) : standard.convert r = .done (.ok ⟨d, "output-binding"⟩) := by
  unfold convert standard Builtin.converters
  rw [convertWith_of_unhandled hidentity, convertWith_of_unhandled hcontext]
  exact convertWith_of_succeeded h

/-- What the converters in front of it leave alone is left to the one for primitive values. -/
theorem convert_primitive (hidentity : Builtin.identity r = .unhandled) (hcontext : Builtin.context r = .unhandled)
    (houtput : Builtin.output r = .unhandled) (hcollection : Builtin.collection r = .unhandled)
    (h : Builtin.primitive r = .succeeded d) : standard.convert r = .done (.ok ⟨d, "primitive"⟩) := by
  unfold convert standard Builtin.converters
  rw [convertWith_of_unhandled hidentity, convertWith_of_unhandled hcontext, convertWith_of_unhandled houtput,
    convertWith_of_unhandled hcollection]
  exact convertWith_of_succeeded h

theorem convert_primitive_alone (hidentity : Builtin.identity r = .unhandled)
    (hcontext : Builtin.context r = .unhandled) (houtput : Builtin.output r = .unhandled)
    (hcollection : Builtin.collection r = .unhandled) (hjson : Builtin.json r = .unhandled) :
    standard.convert r = .done (answer r "primitive" (Builtin.primitive r)) := by
  cases hprimitive : Builtin.primitive r with
  | succeeded d => exact convert_primitive hidentity hcontext houtput hcollection hprimitive
  | failed reason =>
    unfold convert standard Builtin.converters
    rw [convertWith_of_unhandled hidentity, convertWith_of_unhandled hcontext, convertWith_of_unhandled houtput,
      convertWith_of_unhandled hcollection, convertWith_of_failed hprimitive, convertWith_of_unhandled hjson]
    rfl
  | unhandled =>
    unfold convert standard Builtin.converters
    rw [convertWith_of_unhandled hidentity, convertWith_of_unhandled hcontext, convertWith_of_unhandled houtput,
      convertWith_of_unhandled hcollection, convertWith_of_unhandled hprimitive, convertWith_of_unhandled hjson]
    rfl

theorem convert_json_alone (hidentity : Builtin.identity r = .unhandled) (hcontext : Builtin.context r = .unhandled)
    (houtput : Builtin.output r = .unhandled) (hcollection : Builtin.collection r = .unhandled)
    (hprimitive : Builtin.primitive r = .unhandled) :
    standard.convert r = .done (answer r "json" (Builtin.json r)) := by
  unfold convert standard Builtin.converters
  rw [convertWith_of_unhandled hidentity, convertWith_of_unhandled hcontext, convertWith_of_unhandled houtput,
    convertWith_of_unhandled hcollection, convertWith_of_unhandled hprimitive]
  cases hjson : Builtin.json r with
  | succeeded d => exact convertWith_of_succeeded hjson
  | failed reason =>
    rw [convertWith_of_failed hjson]
    rfl
  | unhandled =>
    rw [convertWith_of_unhandled hjson]
    rfl

end FunctionWorker.ConverterChain
