/-
Doubles that functions produce and take. A single double travels as a JSON text. The text of a finite one is bound
to a parameter as the same double, but JSON has no text for the others: an infinity becomes `null`, as a NaN does,
and no converter makes a double of that.
-/
import FunctionWorker.Proofs.Conversion.Exchange
import FunctionWorker.Proofs.Double.Text

namespace FunctionWorker.Double

variable {d : Double}

/-! ## Texts of doubles -/

/-- A text that is asked for as a double is read without what surrounds it. -/
theorem primitive_text (name : String) (role : Role) (text : String) (c : ContextId) (token : TokenId) :
    Builtin.primitive ⟨⟨name, .double, role⟩, some (.json text), c, token⟩ =
      Builtin.parsed (Builtin.bare text) .double ((ofText (Builtin.bare text)).mapError TextError.message) := rfl

theorem render_finite (hfinite : d.isFinite = true) : (Json.double d).render = String.ofList (finiteText json d) := by
  unfold Json.render Json.print Json.printDouble
  rw [if_pos hfinite]

/-- JSON has no text for the others. -/
theorem render_unbounded (h : d.isFinite = false) : (Json.double d).render = "null" := by
  unfold Json.render Json.print Json.printDouble
  rw [h]
  rfl

theorem bare_null : Builtin.bare "null" = "null" := by
  show Builtin.bare (String.ofList ['n', 'u', 'l', 'l']) = _
  exact Builtin.bare_eq_self fun c hc => by fin_cases hc <;> decide

/-! ## Conversion -/

variable (name : String) (role : Role) (c : ContextId) (token : TokenId)

/-- A request for a double, of what a double becomes on the wire. -/
def request (d : Double) : BindingRequest :=
  ⟨⟨name, .double, role⟩, some (OutputValue.double d).toWire, c, token⟩

theorem request_eq (d : Double) :
    request name role c token d = ⟨⟨name, .double, role⟩, some (.json (Json.double d).render), c, token⟩ := rfl

theorem convert_finite (hfinite : d.isFinite = true) :
    ConverterChain.standard.convert (request name role c token d) = .done (.ok ⟨.double d, "primitive"⟩) := by
  have hread : Builtin.primitive (request name role c token d) = .succeeded (.double d) := by
    rw [request_eq, render_finite hfinite, primitive_text, Builtin.bare_eq_self (visible_finiteText hfinite),
      ofText_finiteText hfinite]
    rfl
  exact ConverterChain.convert_primitive rfl rfl rfl rfl hread

/-- What the converter for primitive values says of `null`. -/
def nullReason : String := "cannot parse \"null\": invalid float literal"

theorem convert_unbounded (h : d.isFinite = false) :
    ConverterChain.standard.convert (request name role c token d) =
      .done (.error (.noConverter name "f64" "json" (some ("primitive: " ++ nullReason)))) := by
  have hfailed : Builtin.primitive (request name role c token d) = .failed nullReason := by
    rw [request_eq, render_unbounded h, primitive_text, bare_null]
    rfl
  rw [ConverterChain.convert_primitive_alone rfl rfl rfl rfl rfl, hfailed]
  rfl

/-- What a function produces as a double is bound to a parameter of that type as the same double, to the bit, if it
is finite, the zeros among them; an infinity or a NaN is bound to none, as no converter takes it. -/
theorem convert_produced_double (d : Double) :
    ConverterChain.standard.convert (request name role c token d) =
      .done (if d.isFinite then .ok ⟨.double d, "primitive"⟩
        else .error (.noConverter name "f64" "json" (some ("primitive: " ++ nullReason)))) := by
  cases hfinite : d.isFinite with
  | true => exact convert_finite name role c token hfinite
  | false => exact convert_unbounded name role c token hfinite

/-- Infinity is no NaN, and yet not bound to a parameter again. -/
theorem infinity_lost : ¬ ∀ (d : Double) (name : String) (role : Role) (c : ContextId) (token : TokenId),
    d.isNaN = false → ∃ converter,
      ConverterChain.standard.convert (request name role c token d) = .done (.ok ⟨.double d, converter⟩) := by
  intro h
  obtain ⟨converter, hconvert⟩ := h (make false infinite) "x" .trigger 0 0 (by decide)
  rw [convert_unbounded "x" .trigger 0 0 (by decide)] at hconvert
  cases hconvert

/-- The two zeros are told apart. -/
example : (make true 0).isFinite = true ∧ make true 0 ≠ make false 0 := by decide

end FunctionWorker.Double
