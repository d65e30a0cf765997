/-
Scripts are functions and middleware written as data, in JSON, for trying out a worker without
compiling code. This module reads the values they speak of: types of parameters by short names,
values to be produced, and errors. A vocabulary adds types and errors of the user's own.
-/
import FunctionWorker.Invocation.Pipeline
import FunctionWorker.Json.Reader
import FunctionWorker.Wire.Forms

namespace FunctionWorker.Script

/-- What a user adds to the names that scripts know. -/
structure Vocabulary where
  parameterType : String → Option ParameterType := fun _ => none
  /-- The type of the values that an output takes. -/
  outputType : String → Option String := fun _ => none
  output : String → Json → Option OutputValue := fun _ _ => none
  /-- An error that comes from elsewhere. -/
  foreignError : Json → FunctionError := fun _ => .plain ""

/-! ## Types -/

/-- The types of values that outputs take, by short names. -/
def outputTypes : List (String × String) :=
  [("string", TypeName.text), ("bytes", TypeName.list "u8"), ("i64", "i64"),
    ("string_list", TypeName.list TypeName.text), ("wire", TypeName.wire),
    ("json", TypeName.json TypeName.free), ("opt_string", TypeName.option TypeName.text),
    ("http", TypeName.response)]

/-- The types of parameters by short names; those of outputs follow the mark `out_`. -/
def parameterTypes : List (String × ParameterType) :=
  [("string", .text), ("bytes", .bytes), ("bool", .bool), ("i32", .i32), ("i64", .i64),
    ("u32", .u32), ("u64", .u64), ("f64", .double), ("string_list", .texts),
    ("bytes_list", .byteStrings), ("f64_list", .doubles), ("i64_list", .integers),
    ("http", .http), ("wire", .wire), ("context", .context), ("cancellation", .cancellation),
    ("json_value", .json TypeName.free Json.ofBytes)] ++
    outputTypes.map fun e => ("out_" ++ e.1, .output e.2)

def Vocabulary.typeOf (v : Vocabulary) (name : String) : ParameterType :=
  ((v.parameterType name).or (parameterTypes.lookup name)).getD (.custom name)

def Vocabulary.outputTypeOf (v : Vocabulary) (name : String) : String :=
  ((v.outputType name).or (outputTypes.lookup name)).getD name

/-! ## Values -/

/-- A free-form value from its text. -/
def freeOf (j : Json) : Json := (Json.ofText j.asText).getD .null

def integerOf (j : Json) : Int64 := Int64.ofInt j.asInt

/-- A response, built in one of several ways and given headers in order. -/
def responseOf (j : Json) : HttpResponse :=
  let status := UInt16.ofNat (j.getNat "status")
  let body := j.getBytes "body"
  let response : HttpResponse :=
    match j.getText "build" with
    | "ok" => .ok body
    | "created" => .created body
    | "json" => .json status (freeOf (j.get "json"))
    | _ => ⟨status, [], body⟩
  (j.getEntries "headers").foldl (fun r h => r.withHeader h.1 h.2) response

/-- An optional value: its type, and how it is read when present. -/
def optionalOf (element : String) (read : Json → OutputValue) (v : Json) : OutputValue :=
  if v.isNull then .absent element else .present (read v)

/-- The value of an object with a type and a value. -/
def Vocabulary.outputOf (voc : Vocabulary) (j : Json) : OutputValue :=
  let v := j.get "v"
  match j.getText "t" with
  | "str" => .literal v.asText
  | "bytes" => .bytes v.asBytes
  | "bytes_buf" => .buffer v.asBytes
  | "bool" => .bool v.asBool
  | "i32" => .i32 (Int32.ofInt v.asInt)
  | "i64" => .i64 (integerOf v)
  | "u32" => .u32 (UInt32.ofNat v.asNat)
  | "u64" => .u64 (UInt64.ofNat v.asNat)
  | "f64" => .double v.asDouble
  | "string_list" => .texts (v.asList.map Json.asText)
  | "str_list" => .literals (v.asList.map Json.asText)
  | "bytes_list" => .byteStrings (v.asList.map Json.asBytes)
  | "f64_list" => .doubles (v.asList.map Json.asDouble)
  | "i64_list" => .integers (v.asList.map integerOf)
  | "wire" => .wire (.ofJson v)
  | "http" => .http (responseOf v)
  | "value" => .free (freeOf v)
  | "json" => .json TypeName.free (.ok (freeOf v))
  | "opt_string" => optionalOf TypeName.text (fun v => .text v.asText) v
  | "opt_i64" => optionalOf "i64" (fun v => .i64 (integerOf v)) v
  | "opt_string_list" =>
    optionalOf (TypeName.list TypeName.text) (fun v => .texts (v.asList.map Json.asText)) v
  | t => (voc.output t v).getD (.text v.asText)

/-- Values under names, in order. -/
def Vocabulary.outputsOf (voc : Vocabulary) (j : Json) : List (String × OutputValue) :=
  j.asEntries voc.outputOf

/-! ## Errors -/

def Vocabulary.functionError (voc : Vocabulary) (j : Json) : FunctionError :=
  if j.getBool "cancelled" then .cancelled
  else if j.has "from" then voc.foreignError (j.get "from")
  else if j.has "msg" then .plain (j.getText "msg")
  else ⟨j.getText "type", j.getText "message", false⟩

def stateOf (name : String) : ContextState :=
  (ContextState.all.find? (·.name == name)).getD .created

def contextError (j : Json) : ContextError :=
  match j.getText "c" with
  | "not_executing" => .notExecuting (stateOf (j.getText "state"))
  | "undeclared" => .undeclaredOutput (j.getText "name")
  | "transition" =>
    .invalidTransition (stateOf (j.getText "from")) (stateOf (j.getText "to"))
  | _ => .disposed

def conversionError (j : Json) : ConversionError :=
  match j.getText "c" with
  | "no_converter" =>
    .noConverter (j.getText "parameter") (j.getText "target_type") (j.getText "wire_kind")
      ((j.get "cause").asOption Json.asText)
  | "missing" => .missing (j.getText "parameter") (j.getText "target_type")
  | _ => .unknownConverter (j.getText "name")

def Vocabulary.invocationError (voc : Vocabulary) (j : Json) : InvocationError :=
  match j.getText "e" with
  | "not_found" => .functionNotFound (j.getText "id")
  | "conversion" => .conversion (conversionError j)
  | "user" => .user (voc.functionError j)
  | "from_user" => .ofFunction (voc.functionError j)
  | "context" => .context (contextError j)
  | "panicked" => .panicked (j.getText "message")
  | _ => .cancelled

/-- A panic with its payload. -/
def panicOf (j : Json) : Panic :=
  if j.getText "payload" = "other" then .other else .text (j.getText "message")

/-! ## Showing -/

/-- What there is to see of a failed call. -/
def refused (kind message : String) : Json :=
  .object [("error", .text kind), ("message", .text message)]

def contextRefusal (e : ContextError) : Json :=
  let kind :=
    match e with
    | .notExecuting _ => "NotExecuting"
    | .undeclaredOutput _ => "UndeclaredOutput"
    | .disposed => "Disposed"
    | .invalidTransition _ _ => "InvalidTransition"
  refused kind e.message

def requestForm (r : HttpRequest) : Json :=
  .object [("method", .text r.method), ("url", .text r.url),
    ("headers", .ofEntries .text r.headers), ("query", .ofEntries .text r.query),
    ("body", .ofOctets r.body)]

/-- What there is to see of a value, `taken` being the number of outputs taken before it. -/
def shown (taken : Nat) : Datum → Code Json
  | .text s => .done (.text s)
  | .bytes b => .done (.ofOctets b)
  | .bool b => .done (.bool b)
  | .i32 n => .done (.ofDecimal n.toInt)
  | .i64 n => .done (.ofDecimal n.toInt)
  | .u32 n => .done (.ofDecimal n.toNat)
  | .u64 n => .done (.ofDecimal n.toNat)
  | .double d => .done (.ofDouble d)
  | .texts xs => .done (.ofTexts xs)
  | .byteStrings xs => .done (.ofList .ofOctets xs)
  | .doubles xs => .done (.ofList .ofDouble xs)
  | .integers xs => .done (.ofList (fun i => .ofDecimal i.toInt) xs)
  | .http r => .done (requestForm r)
  | .wire v => .done v.toJson
  | .context c =>
    .call (.facts c) fun (f : ContextFacts) =>
      .done (.object [("context", .text f.invocationId)])
  | .token t =>
    .call (.isCancelled t) fun (b : Bool) => .done (.object [("cancelled", .bool b)])
  | .output s => .done (.object [("binding", .text s.name), ("slot", .int taken)])
  | .json element content =>
    .done (if element = TypeName.free then .text content.render else content)
  | .other _ content => .done content

/-- A value as a text, if it is a text or a number. -/
def plainText : Datum → Json
  | .text s => .text s
  | .i64 n => .ofDecimal n.toInt
  | .u32 n => .ofDecimal n.toNat
  | .other _ (.int i) => .ofDecimal i
  | .other _ (.text s) => .text s
  | _ => .null

end FunctionWorker.Script
