/-
The values that functions produce. Each has one rule for its form on the wire: texts, octets and
homogeneous lists have forms of their own, a response becomes a record, and everything else is
written as JSON. An absent optional value is `none`.
-/
import FunctionWorker.Http
import FunctionWorker.Text.Quoted

namespace FunctionWorker

inductive OutputValue where
  | text (s : String)
  /-- A text that is part of the function's code. -/
  | literal (s : String)
  | bytes (b : Bytes)
  /-- Octets in a shared buffer. -/
  | buffer (b : Bytes)
  | bool (b : Bool)
  | i32 (n : Int32)
  | i64 (n : Int64)
  | u32 (n : UInt32)
  | u64 (n : UInt64)
  | double (d : Double)
  | texts (items : List String)
  | literals (items : List String)
  | byteStrings (items : List Bytes)
  | doubles (items : List Double)
  | integers (items : List Int64)
  | wire (v : WireValue)
  | http (r : HttpResponse)
  /-- A free-form JSON value. -/
  | free (content : Json)
  /-- A value of some other type that is to be written as JSON. Where JSON cannot write it, its
  description is given. -/
  | json (element : String) (content : Except String Json)
  | present (v : OutputValue)
  /-- An absent value of the named type. -/
  | absent (element : String)
deriving Inhabited

/-! ## Names of types

The names by which messages speak of types. -/

namespace TypeName

def text := "alloc::string::String"
def literal := "&str"
def buffer := "bytes::bytes::Bytes"
def wire := "stratus_proto::typed_data::WireValue"
def request := "stratus_worker::triggers::HttpRequestData"
def response := "stratus_worker::triggers::HttpResponseData"
def context := "stratus_worker::context::FunctionContext"
def token := "tokio_util::sync::cancellation_token::CancellationToken"
def free := "serde_json::value::Value"

def list (element : String) : String := "alloc::vec::Vec<" ++ element ++ ">"
def option (element : String) : String := "core::option::Option<" ++ element ++ ">"
def json (element : String) : String := "stratus_worker::output::Json<" ++ element ++ ">"
def output (element : String) : String := "stratus_worker::output::OutputBinding<" ++ element ++ ">"

end TypeName

namespace OutputValue

/-- The name of a value's type. -/
def typeName : OutputValue → String
  | .text _ => TypeName.text
  | .literal _ => TypeName.literal
  | .bytes _ => TypeName.list "u8"
  | .buffer _ => TypeName.buffer
  | .bool _ => "bool"
  | .i32 _ => "i32"
  | .i64 _ => "i64"
  | .u32 _ => "u32"
  | .u64 _ => "u64"
  | .double _ => "f64"
  | .texts _ => TypeName.list TypeName.text
  | .literals _ => TypeName.list TypeName.literal
  | .byteStrings _ => TypeName.list (TypeName.list "u8")
  | .doubles _ => TypeName.list "f64"
  | .integers _ => TypeName.list "i64"
  | .wire _ => TypeName.wire
  | .http _ => TypeName.response
  | .free _ => TypeName.free
  | .json element _ => TypeName.json element
  | .present v => TypeName.option v.typeName
  | .absent element => TypeName.option element

/-- The form of a value on the wire. -/
def toWire : OutputValue → WireValue
  | .text s | .literal s => .text s
  | .bytes b | .buffer b => .bytes b
  | .bool b => .json (Json.bool b).render
  | .i32 n => .json (Json.int n.toInt).render
  | .i64 n => .json (Json.int n.toInt).render
  | .u32 n => .json (Json.int n.toNat).render
  | .u64 n => .json (Json.int n.toNat).render
  | .double d => .json (Json.double d).render
  | .texts xs | .literals xs => .texts xs
  | .byteStrings xs => .byteStrings xs
  | .doubles xs => .doubles xs
  | .integers xs => .integers xs
  | .wire v => v
  | .http r => .http r.toRecord
  | .free j | .json _ (.ok j) => .json j.render
  | .json _ (.error description) => .text description
  | .present v => v.toWire
  | .absent _ => .none

/-- The description of a value, which tells its type only. -/
def describe (v : OutputValue) : String := "OutputValue<" ++ v.typeName ++ ">"

end OutputValue

/-- What a function hands back: a value of its own and values for named outputs. -/
structure HandlerResult where
  returned : Option OutputValue := none
  outputs : List (String × OutputValue) := []
deriving Inhabited

/-- The description of a result. -/
def HandlerResult.describe (r : HandlerResult) : String :=
  Text.record "InvocationResult"
    [("has_return_value", toString r.returned.isSome),
      ("outputs", Text.quotedList (r.outputs.map (·.1)))] false

end FunctionWorker
