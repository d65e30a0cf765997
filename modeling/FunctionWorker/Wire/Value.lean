/-
The values that cross the stream between host and worker. Every input delivered to a function and
every output it produces has exactly one of these shapes.
-/
import FunctionWorker.Double.Basic
import FunctionWorker.Text.Utf8

namespace FunctionWorker

/-- An HTTP request, or a response, which is told by its status code. -/
structure HttpRecord where
  method : String := ""
  url : String := ""
  headers : List (String × String) := []
  query : List (String × String) := []
  statusCode : Option String := none
  body : Option Bytes := none
deriving DecidableEq, Inhabited, Repr

inductive WireValue where
  | none
  | text (s : String)
  | bytes (b : Bytes)
  /-- A text in JSON. -/
  | json (s : String)
  | http (h : HttpRecord)
  | texts (items : List String)
  | byteStrings (items : List Bytes)
  | doubles (items : List Double)
  | integers (items : List Int64)
deriving DecidableEq, Inhabited, Repr

namespace WireValue

/-- The name of a value's shape, as error texts show it. -/
def kind : WireValue → String
  | .none => "none"
  | .text _ => "string"
  | .bytes _ => "bytes"
  | .json _ => "json"
  | .http _ => "http"
  | .texts _ => "collection_string"
  | .byteStrings _ => "collection_bytes"
  | .doubles _ => "collection_double"
  | .integers _ => "collection_sint64"

def isNone : WireValue → Bool
  | .none => true
  | _ => false

/-- The text of a text or JSON value. -/
def asText : WireValue → Option String
  | .text s => some s
  | .json s => some s
  | _ => Option.none

/-- The octets of a text, JSON or byte value. -/
def asRaw : WireValue → Option Bytes
  | .text s => some (Text.utf8 s)
  | .json s => some (Text.utf8 s)
  | .bytes b => some b
  | _ => Option.none

/-- Equality of values, in which doubles are compared as numbers. -/
def equal : WireValue → WireValue → Bool
  | .doubles a, .doubles b => a.length == b.length && (a.zip b).all fun p => Double.equal p.1 p.2
  | .doubles _, _ => false
  | _, .doubles _ => false
  | a, b => a == b

end WireValue

/-- A value under the name of a binding. -/
structure NamedValue where
  name : String
  value : WireValue
deriving DecidableEq, Inhabited, Repr

end FunctionWorker
