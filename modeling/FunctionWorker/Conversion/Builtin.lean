/-
The converters that every chain starts with. Values of the shape asked for pass as they are;
contexts, tokens and outputs need no source; lists are read from JSON arrays or converted item by
item; texts are read as booleans and numbers; JSON types are read from texts. The content of an
HTTP value is its body, an absent body being empty.
-/
import FunctionWorker.Conversion.Basic
import FunctionWorker.Double.Text
import FunctionWorker.Json.Reader
import FunctionWorker.Text.Blank

namespace FunctionWorker.Builtin

/-! ## The content of a value -/

/-- The octets of a value, if it has content. -/
def rawContent : WireValue → Option Bytes
  | .http h => some (h.body.getD [])
  | v => v.asRaw

/-- The text of a value, if it has content. -/
def textContent : WireValue → Option (Except Text.Utf8Error String)
  | .text s | .json s => some (.ok s)
  | v => (rawContent v).map Text.ofUtf8

/-- Reads the text of a value; content that is no text fails. -/
def withText (v : WireValue) (read : String → Conversion) : Conversion :=
  match textContent v with
  | some (.ok s) => read s
  | some (.error e) => .failed ("invalid UTF-8: " ++ e.message)
  | none => .unhandled

/-! ## Values as they are -/

def identity (r : BindingRequest) : Conversion :=
  match r.parameter.type.shape, r.source with
  | .wire, source => .succeeded (.wire (source.getD .none))
  | .text, some (.text s) => .succeeded (.text s)
  | .bytes, some (.bytes b) => .succeeded (.bytes b)
  | .texts, some (.texts xs) => .succeeded (.texts xs)
  | .byteStrings, some (.byteStrings xs) => .succeeded (.byteStrings xs)
  | .doubles, some (.doubles xs) => .succeeded (.doubles xs)
  | .integers, some (.integers xs) => .succeeded (.integers xs)
  | .http, some (.http h) => .succeeded (.http (.ofRecord h))
  | _, _ => .unhandled

def context (r : BindingRequest) : Conversion :=
  match r.parameter.type.shape with
  | .context => .succeeded (.context r.context)
  | .cancellation => .succeeded (.token r.token)
  | _ => .unhandled

def output (r : BindingRequest) : Conversion :=
  match r.parameter.type.shape with
  | .output element => .succeeded (.output ⟨element, r.parameter.name, r.context⟩)
  | _ => .unhandled

/-! ## Lists -/

/-- Reads a JSON array of items of one kind. -/
def jsonArray {α : Type} (item : Json.Raw → Option α) (make : List α → Datum) (s : String) :
    Conversion :=
  match (Json.Raw.ofBytes (Text.utf8 s)).bind (Json.Raw.list? item) with
  | some items => .succeeded (make items)
  | none => .failed "not a JSON array: malformed text"

/-- Reads byte strings as texts, up to the first that is none. -/
def textItems : List Bytes → Except Text.Utf8Error (List String)
  | [] => .ok []
  | b :: bs =>
    match Text.ofUtf8 b with
    | .error e => .error e
    | .ok s => (textItems bs).map (s :: ·)

def int64? (r : Json.Raw) : Option Int64 := (Json.Raw.int? .i64 r).map Int64.ofInt

def octet? (r : Json.Raw) : Option UInt8 := (Json.Raw.int? .u8 r).map fun i => UInt8.ofNat i.toNat

def collection (r : BindingRequest) : Conversion :=
  match r.parameter.type.shape, r.source with
  | .texts, some (.json s) => jsonArray Json.Raw.text? .texts s
  | .byteStrings, some (.json s) => jsonArray (Json.Raw.list? octet?) .byteStrings s
  | .doubles, some (.json s) => jsonArray Json.Raw.double? .doubles s
  | .integers, some (.json s) => jsonArray int64? .integers s
  | .texts, some (.byteStrings xs) =>
    match textItems xs with
    | .ok items => .succeeded (.texts items)
    | .error e => .failed ("invalid UTF-8 element: " ++ e.message)
  | .texts, some (.integers xs) => .succeeded (.texts (xs.map fun i => toString i.toInt))
  | .texts, some (.doubles xs) => .succeeded (.texts (xs.map Double.text))
  | .byteStrings, some (.texts xs) => .succeeded (.byteStrings (xs.map Text.utf8))
  | .doubles, some (.integers xs) =>
    .succeeded (.doubles (xs.map fun i => Double.ofInt i.toInt))
  | _, _ => .unhandled

/-! ## Booleans and numbers -/

/-- A text without blanks and then without quotes around it. -/
def bare (s : String) : String := Text.strip (· = '"') (Text.trim s)

/-- The outcome of reading a bare text. -/
def parsed {α : Type} (bare : String) (make : α → Datum) : Except String α → Conversion
  | .ok a => .succeeded (make a)
  | .error reason => .failed ("cannot parse " ++ Text.quoted bare ++ ": " ++ reason)

def boolOf (s : String) : Except String Bool :=
  if s = "true" then .ok true
  else if s = "false" then .ok false
  else .error "provided string was not `true` or `false`"

def integer (b : Integer.Bounds) (make : Int → Datum) (v : WireValue) : Conversion :=
  withText v fun s =>
    parsed (bare s) make ((Integer.ofText b (bare s)).mapError Integer.TextError.message)

def primitive (r : BindingRequest) : Conversion :=
  match r.source with
  | none => .unhandled
  | some v =>
    match r.parameter.type.shape with
    | .text => withText v fun s => .succeeded (.text s)
    | .bytes =>
      match rawContent v with
      | some b => .succeeded (.bytes b)
      | none => .unhandled
    | .bool => withText v fun s => parsed (bare s) .bool (boolOf (bare s))
    | .i32 => integer .i32 (fun i => .i32 (Int32.ofInt i)) v
    | .i64 => integer .i64 (fun i => .i64 (Int64.ofInt i)) v
    | .u32 => integer .u32 (fun i => .u32 (UInt32.ofNat i.toNat)) v
    | .u64 => integer .u64 (fun i => .u64 (UInt64.ofNat i.toNat)) v
    | .double =>
      withText v fun s =>
        parsed (bare s) .double ((Double.ofText (bare s)).mapError Double.TextError.message)
    | _ => .unhandled

/-! ## JSON -/

def json (r : BindingRequest) : Conversion :=
  match r.parameter.type.shape, r.source with
  | .json element read, some v =>
    withText v fun s =>
      match read (Text.utf8 s) with
      | some content => .succeeded (.json element content)
      | none => .failed "invalid JSON: malformed text"
  | _, _ => .unhandled

/-! ## The converters in order -/

def converters : List Converter :=
  [.ofFunction "identity" identity, .ofFunction "context" context,
    .ofFunction "output-binding" output, .ofFunction "collection" collection,
    .ofFunction "primitive" primitive, .ofFunction "json" json]

end FunctionWorker.Builtin
