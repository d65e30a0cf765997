/-
Values of types known at run time: what parameters are bound to, what contexts keep as items and
what services resolve to. Whoever takes a value names the type expected and gets the value only as
that type.
-/
import FunctionWorker.Function.Output

namespace FunctionWorker

/-- Contexts by the order in which they were made. -/
abbrev ContextId := Nat

/-- Cancellation tokens by the order in which they were made. -/
abbrev TokenId := Nat

/-- An output of an invocation under a name, which takes values of one type. -/
structure OutputSlot where
  element : String
  name : String
  context : ContextId
deriving DecidableEq, Inhabited, Repr

inductive Datum where
  | text (s : String)
  | bytes (b : Bytes)
  | bool (b : Bool)
  | i32 (n : Int32)
  | i64 (n : Int64)
  | u32 (n : UInt32)
  | u64 (n : UInt64)
  | double (d : Double)
  | texts (items : List String)
  | byteStrings (items : List Bytes)
  | doubles (items : List Double)
  | integers (items : List Int64)
  | http (r : HttpRequest)
  | wire (v : WireValue)
  | context (id : ContextId)
  | token (id : TokenId)
  | output (slot : OutputSlot)
  /-- A value read from JSON as the named type. -/
  | json (element : String) (content : Json)
  /-- A value of a type that the worker knows by name only. -/
  | other (typeName : String) (content : Json)
deriving Inhabited

/-- The name of a value's type. -/
def Datum.typeName : Datum → String
  | .text _ => TypeName.text
  | .bytes _ => TypeName.list "u8"
  | .bool _ => "bool"
  | .i32 _ => "i32"
  | .i64 _ => "i64"
  | .u32 _ => "u32"
  | .u64 _ => "u64"
  | .double _ => "f64"
  | .texts _ => TypeName.list TypeName.text
  | .byteStrings _ => TypeName.list (TypeName.list "u8")
  | .doubles _ => TypeName.list "f64"
  | .integers _ => TypeName.list "i64"
  | .http _ => TypeName.request
  | .wire _ => TypeName.wire
  | .context _ => TypeName.context
  | .token _ => TypeName.token
  | .output slot => TypeName.output slot.element
  | .json element _ => TypeName.json element
  | .other name _ => name

end FunctionWorker
