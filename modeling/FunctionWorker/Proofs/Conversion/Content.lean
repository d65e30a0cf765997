/-
Values that carry the same octets. A text, a JSON text, a byte string and the body of an HTTP value reach a
parameter through different converters, and are read as texts by some of them and as octets by others. What
comes of it depends on the octets alone.
-/
import FunctionWorker.Proofs.Conversion.Chain
import FunctionWorker.Proofs.Text.Utf8

namespace FunctionWorker

variable {v : WireValue} {b : Bytes}

/-! ## Carriers -/

/-- A value that carries octets: a text carries those it is written with, and an HTTP value those of its body. -/
inductive WireValue.Carries : Bytes → WireValue → Prop where
  | text (s : String) : Carries (Text.utf8 s) (.text s)
  | json (s : String) : Carries (Text.utf8 s) (.json s)
  | bytes (b : Bytes) : Carries b (.bytes b)
  | body {h : HttpRecord} {b : Bytes} (given : h.body = some b) : Carries b (.http h)
  /-- An absent body is an empty one. -/
  | noBody {h : HttpRecord} (absent : h.body = Option.none) : Carries [] (.http h)

namespace Builtin

theorem rawContent_of_carries (h : v.Carries b) : rawContent v = some b := by
  cases h with
  | text | json | bytes => rfl
  | body given => exact congrArg (fun body : Option Bytes => some (body.getD [])) given
  | noBody absent => exact congrArg (fun body : Option Bytes => some (body.getD [])) absent

theorem textContent_of_carries (h : v.Carries b) : textContent v = some (Text.ofUtf8 b) := by
  have hraw := rawContent_of_carries h
  cases h with
  | text s | json s => exact congrArg some (Text.ofUtf8_utf8 s).symm
  | bytes | body | noBody => exact congrArg (Option.map Text.ofUtf8) hraw

/-- A carrier is read as the byte string of its octets is. -/
theorem withText_of_carries (h : v.Carries b) (read : String → Conversion) :
    withText v read = withText (.bytes b) read := by
  unfold withText
  rw [textContent_of_carries h]
  rfl

theorem primitive_of_carries (h : v.Carries b) (p : Parameter) (c : ContextId) (token : TokenId) :
    primitive ⟨p, some v, c, token⟩ = primitive ⟨p, some (.bytes b), c, token⟩ := by
  have hraw : rawContent v = rawContent (.bytes b) := rawContent_of_carries h
  unfold primitive
  simp only [integer, withText_of_carries h, hraw]

theorem json_of_carries (h : v.Carries b) (p : Parameter) (c : ContextId) (token : TokenId) :
    json ⟨p, some v, c, token⟩ = json ⟨p, some (.bytes b), c, token⟩ := by
  unfold json
  cases hshape : p.type.shape with
  | json element read => exact withText_of_carries h _
  | _ => rfl

/-- What is read from octets as a text succeeds only if they are one. -/
theorem isText_of_withText {read : String → Conversion} {d : Datum}
    (h : withText (.bytes b) read = .succeeded d) : ∃ s, Text.utf8 s = b := by
  have htext : textContent (.bytes b) = some (Text.ofUtf8 b) := rfl
  unfold withText at h
  rw [htext] at h
  cases hread : Text.ofUtf8 b with
  | ok s => exact ⟨s, Text.utf8_of_ofUtf8 hread⟩
  | error e =>
    rw [hread] at h
    cases h

end Builtin

/-! ## Types that are read from content -/

/-- The outcome of binding a request: a datum, or else the cause for which no converter makes one. -/
def ConverterChain.Binds (chain : ConverterChain) (r : BindingRequest) : Except (Option String) Datum → Prop
  | .ok d => ∃ converter, chain.convert r = .done (.ok ⟨d, converter⟩)
  | .error cause => chain.convert r = .done (.error (ConverterChain.exhausted r cause))

/-- What a converter that alone takes a request up makes of it. -/
def Conversion.outcome (name : String) : Conversion → Except (Option String) Datum
  | .succeeded d => .ok d
  | .failed reason => .error (some (name ++ ": " ++ reason))
  | .unhandled => .error none

theorem ConverterChain.binds_of_answer {chain : ConverterChain} {r : BindingRequest} {name : String}
    {made : Conversion} (h : chain.convert r = .done (answer r name made)) :
    chain.Binds r (made.outcome name) := by
  cases made with
  | succeeded d => exact ⟨name, h⟩
  | failed | unhandled => exact h

theorem Conversion.eq_succeeded_of_outcome {name : String} {made : Conversion} {d : Datum} (h : made.outcome name = .ok d) :
    made = .succeeded d := by
  cases made with
  | succeeded e =>
    cases h
    rfl
  | failed | unhandled => cases h

/-- The types of parameters that are read from the content of a value. -/
inductive ContentType where
  | text
  | bytes
  | bool
  | i32
  | i64
  | u32
  | u64
  | double
  | json (element : String) (read : Bytes → Option Json)

namespace ContentType

def parameterType : ContentType → ParameterType
  | text => .text
  | bytes => .bytes
  | bool => .bool
  | i32 => .i32
  | i64 => .i64
  | u32 => .u32
  | u64 => .u64
  | double => .double
  | json element read => .json element read

/-- The outcome of binding a byte string to a parameter of the type. -/
def outcome (t : ContentType) (r : BindingRequest) : Except (Option String) Datum :=
  match t with
  | json _ _ => (Builtin.json r).outcome "json"
  | _ => (Builtin.primitive r).outcome "primitive"

variable (t : ContentType) (name : String) (role : Role) (c : ContextId) (token : TokenId)

/-- The request to bind a value to a parameter of the type. -/
def request (v : WireValue) : BindingRequest := ⟨⟨name, t.parameterType, role⟩, some v, c, token⟩

theorem outcome_of_carries (h : v.Carries b) :
    t.outcome (t.request name role c token v) = t.outcome (t.request name role c token (.bytes b)) := by
  cases t with
  | json => exact congrArg (Conversion.outcome "json") (Builtin.json_of_carries h _ c token)
  | _ => exact congrArg (Conversion.outcome "primitive") (Builtin.primitive_of_carries h _ c token)

/-- What does not pass as it is goes to the converter of the type. -/
theorem binds_of_unhandled (h : Builtin.identity (t.request name role c token v) = .unhandled) :
    ConverterChain.standard.Binds (t.request name role c token v) (t.outcome (t.request name role c token v)) := by
  cases t with
  | json => exact ConverterChain.binds_of_answer (ConverterChain.convert_json_alone h rfl rfl rfl rfl)
  | _ => exact ConverterChain.binds_of_answer (ConverterChain.convert_primitive_alone h rfl rfl rfl rfl)

/-- What passes as it is is what the converter of the type would make of it. -/
theorem identity_of_carries (h : v.Carries b) :
    Builtin.identity (t.request name role c token v) = .unhandled ∨
      ∃ d, Builtin.identity (t.request name role c token v) = .succeeded d ∧
        t.outcome (t.request name role c token (.bytes b)) = .ok d := by
  cases t with
  | text =>
    cases h with
    -- the text passes, and is what its octets are read as
    | text s =>
      refine .inr ⟨.text s, rfl, ?_⟩
      rw [← outcome_of_carries .text name role c token (.text s)]
      rfl
    | json | bytes | body | noBody => exact .inl rfl
  | bytes =>
    cases h with
    | bytes => exact .inr ⟨_, rfl, rfl⟩
    | text | json | body | noBody => exact .inl rfl
  | bool | i32 | i64 | u32 | u64 | double | json => exact .inl rfl

/-- Every carrier of octets is bound as the byte string of them would be by the converter of the type. -/
theorem binds_of_carries (h : v.Carries b) :
    ConverterChain.standard.Binds (t.request name role c token v)
      (t.outcome (t.request name role c token (.bytes b))) := by
  rcases t.identity_of_carries name role c token h with hleft | ⟨d, hpasses, houtcome⟩
  · rw [← t.outcome_of_carries name role c token h]
    exact t.binds_of_unhandled name role c token hleft
  · rw [houtcome]
    exact ⟨_, ConverterChain.convert_identity hpasses⟩

/-- Octets that a parameter of any type but byte strings is made of are a text. -/
theorem isText_of_outcome {d : Datum} (hbytes : t ≠ .bytes)
    (h : t.outcome (t.request name role c token (.bytes b)) = .ok d) : ∃ s, Text.utf8 s = b := by
  cases t with
  | bytes => exact absurd rfl hbytes
  | _ => exact Builtin.isText_of_withText (Conversion.eq_succeeded_of_outcome h)

/-- All that carries the same octets is bound alike: to one datum whatever carries them, or refused for one cause.
A byte string is made of any octets, and is those octets; a text is made of the octets of a text; and nothing but
a byte string is made of octets that are no text. -/
theorem carriers_bind_alike (b : Bytes) : ∃ outcome : Except (Option String) Datum,
    (∀ v : WireValue, v.Carries b → ConverterChain.standard.Binds (t.request name role c token v) outcome) ∧
    (t = .bytes → outcome = .ok (.bytes b)) ∧
    (t = .text → ∀ s, Text.utf8 s = b → outcome = .ok (.text s)) ∧
    (t ≠ .bytes → ∀ d, outcome = .ok d → ∃ s, Text.utf8 s = b) := by
  refine ⟨t.outcome (t.request name role c token (.bytes b)),
    fun v h => t.binds_of_carries name role c token h, ?_, ?_,
    fun hbytes d houtcome => t.isText_of_outcome name role c token hbytes houtcome⟩
  · rintro rfl
    rfl
  · rintro rfl s rfl
    rw [← outcome_of_carries .text name role c token (.text s)]
    rfl

/-! Content outside of ASCII, an octet that begins a character and is not continued, and no content at all. -/

theorem carriers_bind_alike_accented :
    ConverterChain.standard.Binds (request .text "p" .trigger 0 0 (.http { body := some [0xc3, 0xa9] }))
      (.ok (.text "é")) ∧
    ConverterChain.standard.Binds (request .text "p" .trigger 0 0 (.json "é")) (.ok (.text "é")) ∧
    (∃ cause, ∀ v : WireValue, v = .bytes [0xc3] ∨ v = .http { body := some [0xc3] } →
      ConverterChain.standard.Binds (request .u64 "p" .input 0 0 v) (.error cause)) ∧
    ConverterChain.standard.Binds (request .bytes "p" .input 0 0 (.http {})) (.ok (.bytes [])) := by
  have haccented : Text.utf8 "é" = [0xc3, 0xa9] := by decide
  have hbroken : ¬ ∃ s, Text.utf8 s = [0xc3] := by
    rintro ⟨s, hs⟩
    have hread := Text.ofUtf8?_utf8 s
    rw [hs] at hread
    cases hread
  obtain ⟨accented, hcarried, -, htext, -⟩ := carriers_bind_alike .text "p" .trigger 0 0 [0xc3, 0xa9]
  obtain ⟨broken, hbound, -, -, hrefused⟩ := carriers_bind_alike .u64 "p" .input 0 0 [0xc3]
  obtain ⟨nothing, hempty, hbytes, -, -⟩ := carriers_bind_alike .bytes "p" .input 0 0 []
  refine ⟨?_, ?_, ?_, ?_⟩
  · rw [← htext rfl "é" haccented]
    exact hcarried _ (.body rfl)
  · rw [← htext rfl "é" haccented]
    exact hcarried _ (haccented ▸ .json "é")
  · cases broken with
    | ok d => exact absurd (hrefused nofun d rfl) hbroken
    | error cause =>
      refine ⟨cause, ?_⟩
      rintro v (rfl | rfl)
      · exact hbound _ (.bytes _)
      · exact hbound _ (.body rfl)
  · rw [← hbytes rfl]
    exact hempty _ (.noBody rfl)

end ContentType

end FunctionWorker
