/-
Parameters of functions: a name, a type and a role. The shape of a type decides which converters
can make a value of it.
-/
import FunctionWorker.Function.Datum

namespace FunctionWorker

inductive Shape where
  | text
  | bytes
  | bool
  | i32
  | i64
  | u32
  | u64
  | double
  | texts
  | byteStrings
  | doubles
  | integers
  | http
  | wire
  | context
  | cancellation
  /-- An output that takes values of the named type. -/
  | output (element : String)
  /-- A value of the named type that is read from JSON. -/
  | json (element : String) (read : Bytes → Option Json)
  /-- A type that only converters of its own can make. -/
  | custom

def Shape.name : Shape → String
  | .text => "String"
  | .bytes => "Bytes"
  | .bool => "Bool"
  | .i32 => "I32"
  | .i64 => "I64"
  | .u32 => "U32"
  | .u64 => "U64"
  | .double => "F64"
  | .texts => "StringList"
  | .byteStrings => "BytesList"
  | .doubles => "DoubleList"
  | .integers => "Int64List"
  | .http => "Http"
  | .wire => "Wire"
  | .context => "Context"
  | .cancellation => "Cancellation"
  | .output _ => "Output"
  | .json _ _ => "Json"
  | .custom => "Custom"

/-- A type that parameters can have. Types are the same if their names are. -/
structure ParameterType where
  name : String
  shape : Shape

namespace ParameterType

def text : ParameterType := ⟨TypeName.text, .text⟩
def bytes : ParameterType := ⟨TypeName.list "u8", .bytes⟩
def bool : ParameterType := ⟨"bool", .bool⟩
def i32 : ParameterType := ⟨"i32", .i32⟩
def i64 : ParameterType := ⟨"i64", .i64⟩
def u32 : ParameterType := ⟨"u32", .u32⟩
def u64 : ParameterType := ⟨"u64", .u64⟩
def double : ParameterType := ⟨"f64", .double⟩
def texts : ParameterType := ⟨TypeName.list TypeName.text, .texts⟩
def byteStrings : ParameterType := ⟨TypeName.list (TypeName.list "u8"), .byteStrings⟩
def doubles : ParameterType := ⟨TypeName.list "f64", .doubles⟩
def integers : ParameterType := ⟨TypeName.list "i64", .integers⟩
def http : ParameterType := ⟨TypeName.request, .http⟩
def wire : ParameterType := ⟨TypeName.wire, .wire⟩
def context : ParameterType := ⟨TypeName.context, .context⟩
def cancellation : ParameterType := ⟨TypeName.token, .cancellation⟩

/-- An output that takes values of a type. -/
def output (element : String) : ParameterType := ⟨TypeName.output element, .output element⟩

/-- A type read from JSON. -/
def json (element : String) (read : Bytes → Option Json) : ParameterType :=
  ⟨TypeName.json element, .json element read⟩

/-- A type of which the worker knows the name only. -/
def custom (name : String) : ParameterType := ⟨name, .custom⟩

/-- Types of one name. -/
def same (a b : ParameterType) : Bool := a.name == b.name

end ParameterType

inductive Role where
  | input
  | trigger
  | output
  | context
deriving DecidableEq, Inhabited, Repr

def Role.name : Role → String
  | .input => "Input"
  | .trigger => "Trigger"
  | .output => "Output"
  | .context => "Context"

structure Parameter where
  name : String
  type : ParameterType
  role : Role

end FunctionWorker
