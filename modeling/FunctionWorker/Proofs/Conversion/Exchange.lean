/-
Types whose values functions both produce and take. What such a value becomes on the wire is bound to a
parameter of its type as the same value: texts, octets, lists and wire values have a form of their own and
pass as they are; booleans and whole numbers travel as JSON texts, which no converter before the one for
primitive values takes, and are read back by it. Free-form values travel as JSON texts as well, which are
printed and read whole.
-/
import FunctionWorker.Proofs.Conversion.Chain
import FunctionWorker.Proofs.Json.RoundTrip
import FunctionWorker.Proofs.Text.Decimal

namespace FunctionWorker

/-! ## Texts of primitive values -/

namespace Builtin

theorem bare_eq_self {cs : List Char} (h : ∀ c ∈ cs, Text.isBlank c = false ∧ c ≠ '"') :
    bare (String.ofList cs) = String.ofList cs := by
  unfold bare Text.trim
  rw [Text.strip_eq_self fun c hc => (h c hc).1]
  exact Text.strip_eq_self fun c hc => by simpa using (h c hc).2

/-- A whole number within the bounds of a type is read back from its JSON text. -/
theorem integer_render {b : Integer.Bounds} (make : Int → Datum) {i : Int} (hleast : b.least ≤ 0)
    (hgreatest : 0 ≤ b.greatest) (hlow : b.least ≤ i) (hhigh : i ≤ b.greatest) :
    integer b make (.json (Json.int i).render) = .succeeded (make i) := by
  have hbare : bare (Json.int i).render = (Json.int i).render :=
    bare_eq_self fun c hc => Integer.visible_of_mem_printInt hc
  have hread : Integer.ofText b (Json.int i).render = .ok i := by
    unfold Integer.ofText Json.render
    rw [String.toList_ofList]
    exact Integer.ofList_printInt hleast hgreatest hlow hhigh
  show parsed (bare (Json.int i).render) make
    ((Integer.ofText b (bare (Json.int i).render)).mapError Integer.TextError.message) = _
  rw [hbare, hread]
  rfl

/-- A boolean is read back from its JSON text. -/
theorem bool_render (b : Bool) :
    parsed (bare (Json.bool b).render) Datum.bool (boolOf (bare (Json.bool b).render)) = .succeeded (.bool b) := by
  have htrue : (Json.bool true).render = String.ofList ['t', 'r', 'u', 'e'] := rfl
  have hfalse : (Json.bool false).render = String.ofList ['f', 'a', 'l', 's', 'e'] := rfl
  cases b with
  | true =>
    rw [htrue, bare_eq_self fun c hc => by fin_cases hc <;> decide]
    rfl
  | false =>
    rw [hfalse, bare_eq_self fun c hc => by fin_cases hc <;> decide]
    rfl

/-! The bounds of each type of whole numbers are those of its values. -/

theorem i32_render (n : Int32) :
    integer .i32 (fun i => .i32 (Int32.ofInt i)) (.json (Json.int n.toInt).render) = .succeeded (.i32 n) := by
  have hlow := n.le_toInt
  have hhigh := n.toInt_lt
  rw [integer_render _ (by decide) (by decide) (by simp only [Integer.Bounds.i32]; omega)
    (by simp only [Integer.Bounds.i32]; omega), Int32.ofInt_toInt]

theorem i64_render (n : Int64) :
    integer .i64 (fun i => .i64 (Int64.ofInt i)) (.json (Json.int n.toInt).render) = .succeeded (.i64 n) := by
  have hlow := n.le_toInt
  have hhigh := n.toInt_lt
  rw [integer_render _ (by decide) (by decide) (by simp only [Integer.Bounds.i64]; omega)
    (by simp only [Integer.Bounds.i64]; omega), Int64.ofInt_toInt]

theorem u32_render (n : UInt32) :
    integer .u32 (fun i => .u32 (UInt32.ofNat i.toNat)) (.json (Json.int n.toNat).render) =
      .succeeded (.u32 n) := by
  have hhigh := n.toNat_lt
  rw [integer_render _ (by decide) (by decide) (by simp only [Integer.Bounds.u32]; omega)
    (by simp only [Integer.Bounds.u32]; omega), Int.toNat_natCast, UInt32.ofNat_toNat]

theorem u64_render (n : UInt64) :
    integer .u64 (fun i => .u64 (UInt64.ofNat i.toNat)) (.json (Json.int n.toNat).render) =
      .succeeded (.u64 n) := by
  have hhigh := n.toNat_lt
  rw [integer_render _ (by decide) (by decide) (by simp only [Integer.Bounds.u64]; omega)
    (by simp only [Integer.Bounds.u64]; omega), Int.toNat_natCast, UInt64.ofNat_toNat]

end Builtin

/-! ## Values that are exchanged -/

/-- The types whose values functions both produce and take. -/
inductive ExchangeType where
  | bool
  | i32
  | i64
  | u32
  | u64
  | text
  | bytes
  | texts
  | byteStrings
  | doubles
  | integers
  | wire

namespace ExchangeType

def Carrier : ExchangeType → Type
  | .bool => Bool
  | .i32 => Int32
  | .i64 => Int64
  | .u32 => UInt32
  | .u64 => UInt64
  | .text => String
  | .bytes => Bytes
  | .texts => List String
  | .byteStrings => List Bytes
  | .doubles => List Double
  | .integers => List Int64
  | .wire => WireValue

/-- The type as the type of a parameter. -/
def parameterType : ExchangeType → ParameterType
  | .bool => .bool
  | .i32 => .i32
  | .i64 => .i64
  | .u32 => .u32
  | .u64 => .u64
  | .text => .text
  | .bytes => .bytes
  | .texts => .texts
  | .byteStrings => .byteStrings
  | .doubles => .doubles
  | .integers => .integers
  | .wire => .wire

/-- A value as a function produces it. -/
def produced : (t : ExchangeType) → t.Carrier → OutputValue
  | .bool => .bool
  | .i32 => .i32
  | .i64 => .i64
  | .u32 => .u32
  | .u64 => .u64
  | .text => .text
  | .bytes => .bytes
  | .texts => .texts
  | .byteStrings => .byteStrings
  | .doubles => .doubles
  | .integers => .integers
  | .wire => .wire

/-- A value as a function takes it. -/
def received : (t : ExchangeType) → t.Carrier → Datum
  | .bool => .bool
  | .i32 => .i32
  | .i64 => .i64
  | .u32 => .u32
  | .u64 => .u64
  | .text => .text
  | .bytes => .bytes
  | .texts => .texts
  | .byteStrings => .byteStrings
  | .doubles => .doubles
  | .integers => .integers
  | .wire => .wire

theorem received_injective (t : ExchangeType) : Function.Injective t.received := by
  intro x y h
  cases t <;> injection h

/-- The converter that takes values of a type back. -/
def converter : ExchangeType → String
  | .bool | .i32 | .i64 | .u32 | .u64 => "primitive"
  | _ => "identity"

/-- Whatever a function produces of one of these types is bound to a parameter of that type as the same
value, in whatever role the parameter stands and for whatever invocation, and no other value is taken for
it. -/
theorem convert_produced (t : ExchangeType) (x : t.Carrier) (name : String) (role : Role) (c : ContextId)
    (token : TokenId) :
    ((t.produced x).typeName = t.parameterType.name ∧ (t.received x).typeName = t.parameterType.name) ∧
    Function.Injective t.received ∧
    ConverterChain.standard.convert ⟨⟨name, t.parameterType, role⟩, some (t.produced x).toWire, c, token⟩ =
      .done (.ok ⟨t.received x, t.converter⟩) := by
  refine ⟨by cases t <;> exact ⟨rfl, rfl⟩, t.received_injective, ?_⟩
  cases t with
  -- a form of its own on the wire, which the first converter takes
  | text | bytes | texts | byteStrings | doubles | integers | wire => exact ConverterChain.convert_identity rfl
  -- a JSON text, which no converter takes for such a parameter before the one for primitive values
  | bool => exact ConverterChain.convert_primitive rfl rfl rfl rfl (Builtin.bool_render x)
  | i32 => exact ConverterChain.convert_primitive rfl rfl rfl rfl (Builtin.i32_render x)
  | i64 => exact ConverterChain.convert_primitive rfl rfl rfl rfl (Builtin.i64_render x)
  | u32 => exact ConverterChain.convert_primitive rfl rfl rfl rfl (Builtin.u32_render x)
  | u64 => exact ConverterChain.convert_primitive rfl rfl rfl rfl (Builtin.u64_render x)

end ExchangeType

/-! ## Free-form values -/

namespace Json

/-- A free-form value that a function produces, on its own or as a value that is to be written as JSON, is its text
on the wire, and is bound to a parameter for free-form values as the same value. -/
theorem convert_free {j : Json} (h : Plain 127 j) (element : String) {v : OutputValue}
    (hv : v = .free j ∨ v = .json element (.ok j)) (name : String) (role : Role) (c : ContextId) (token : TokenId) :
    v.toWire = .json j.render ∧
    ConverterChain.standard.convert ⟨⟨name, .json TypeName.free ofBytes, role⟩, some v.toWire, c, token⟩ =
      .done (.ok ⟨.json TypeName.free j, "json"⟩) := by
  have hwire : v.toWire = .json j.render := by
    rcases hv with rfl | rfl
    · rfl
    · rfl
  have hread : ofBytes (Text.utf8 j.render) = some j := h.ofText_render
  have hjson : Builtin.json ⟨⟨name, .json TypeName.free ofBytes, role⟩, some (.json j.render), c, token⟩ =
      .succeeded (.json TypeName.free j) := by
    simp only [Builtin.json, ParameterType.json, Builtin.withText, Builtin.textContent, hread]
  refine ⟨hwire, ?_⟩
  rw [hwire, ConverterChain.convert_json_alone rfl rfl rfl rfl rfl, hjson]
  rfl

/-! A value at the limit of depth with the extreme numbers and with characters that are escaped, under keys out of
order. -/

def nested : Nat → Json → Json
  | 0, j => j
  | n + 1, j => .array [nested n j]

theorem Plain.nested {depth : Nat} {j : Json} (h : Plain depth j) : (n : Nat) → Plain (depth + n) (j.nested n)
  | 0 => h
  | n + 1 => .array (by simpa using Plain.nested h n)

def ledger : Json :=
  ofMembers [("z", .int 0xffffffffffffffff), ("", .array []), ("\u00e9", .text "\"\\\n\x01\x7f\u20ac"),
    ("z", .int (-0x8000000000000000)), ("a", .object [])]

theorem convert_free_ledger : Plain 127 (ledger.nested 125) ∧
    ConverterChain.standard.convert ⟨⟨"p", .json TypeName.free ofBytes, .trigger⟩,
      some (OutputValue.free (ledger.nested 125)).toWire, 0, 0⟩ =
      .done (.ok ⟨.json TypeName.free (ledger.nested 125), "json"⟩) := by
  have hledger : Plain 2 ledger := by
    refine .ofMembers fun m hm => ?_
    simp only [List.mem_cons, List.not_mem_nil, or_false] at hm
    rcases hm with rfl | rfl | rfl | rfl | rfl
    · exact .int (by decide)
    · exact .array nofun
    · exact .text _
    · exact .int (by decide)
    · exact .object .nil nofun
  have hplain : Plain 127 (ledger.nested 125) := hledger.nested 125
  exact ⟨hplain, (convert_free hplain "" (.inl rfl) "p" .trigger 0 0).2⟩

end Json

end FunctionWorker
