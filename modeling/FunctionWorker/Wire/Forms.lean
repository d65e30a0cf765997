/-
The JSON forms of messages, in which tools show and write them: an object for each record, with the
kind of a message beside its fields. Entries keep their order as lists of pairs, 64-bit integers
are decimal texts. Fields that are missing are empty.
-/
import FunctionWorker.Json.Fields
import FunctionWorker.Wire.Envelope

namespace FunctionWorker

/-! ## Values -/

def HttpRecord.toJson (h : HttpRecord) : Json :=
  .object [("method", .text h.method), ("url", .text h.url),
    ("headers", .ofEntries .text h.headers), ("query", .ofEntries .text h.query),
    ("status_code", .ofOption .text h.statusCode), ("body", .ofOption .ofOctets h.body)]

def HttpRecord.ofJson (j : Json) : HttpRecord :=
  { method := j.getText "method", url := j.getText "url", headers := j.getEntries "headers",
    query := j.getEntries "query", statusCode := (j.get "status_code").asOption Json.asText,
    body := (j.get "body").asOption Json.asBytes }

def WireValue.toJson (w : WireValue) : Json :=
  let v : Json :=
    match w with
    | .none => .null
    | .text s | .json s => .text s
    | .bytes b => .ofOctets b
    | .http h => h.toJson
    | .texts xs => .ofTexts xs
    | .byteStrings xs => .ofList .ofOctets xs
    | .doubles xs => .ofList .ofDouble xs
    | .integers xs => .ofList (fun i => .ofDecimal i.toInt) xs
  .object [("k", .text w.kind), ("v", v)]

def WireValue.ofJson (j : Json) : WireValue :=
  let v := j.get "v"
  match j.getText "k" with
  | "string" => .text v.asText
  | "bytes" => .bytes v.asBytes
  | "json" => .json v.asText
  | "http" => .http (.ofJson v)
  | "collection_string" => .texts (v.asList.map Json.asText)
  | "collection_bytes" => .byteStrings (v.asList.map Json.asBytes)
  | "collection_double" => .doubles (v.asList.map Json.asDouble)
  | "collection_sint64" => .integers (v.asList.map fun i => Int64.ofInt i.asInt)
  | _ => .none

/-- Values under names. -/
def NamedValue.listToJson (vs : List NamedValue) : Json :=
  .ofEntries WireValue.toJson (vs.map fun v => (v.name, v.value))

def NamedValue.listOfJson (j : Json) : List NamedValue :=
  (j.asEntries WireValue.ofJson).map fun e => ⟨e.1, e.2⟩

/-! ## Outcomes -/

def ExceptionRecord.toJson (e : ExceptionRecord) : Json :=
  .object [("message", .text e.message), ("type_name", .text e.typeName),
    ("source", .text e.source), ("stack_trace", .text e.stackTrace),
    ("is_user_exception", .bool e.isUser)]

def ExceptionRecord.ofJson (j : Json) : ExceptionRecord :=
  ⟨j.getText "message", j.getText "type_name", j.getText "source", j.getText "stack_trace",
    j.getBool "is_user_exception"⟩

/-- The exception of a record, if it has one. -/
def exceptionOf (j : Json) : Option ExceptionRecord :=
  (j.get "exception").asOption ExceptionRecord.ofJson

def Outcome.toJson (o : Outcome) : Json :=
  .object [("status", .text o.status.name),
    ("exception", .ofOption ExceptionRecord.toJson o.exception)]

/-- The status of a name; success has no need to be named. -/
def Status.ofName : String → Status
  | "failure" => .failure
  | "cancelled" => .cancelled
  | _ => .success

def Outcome.ofJson (j : Json) : Outcome := ⟨.ofName (j.getText "status"), exceptionOf j⟩

/-! ## Functions -/

def BindingInfo.toJson (b : BindingInfo) : Json :=
  .object [("type", .text b.bindingType), ("direction", .text b.direction.name)]

def Direction.ofName : String → Direction
  | "out" => .output
  | "inout" => .both
  | _ => .input

def BindingInfo.ofJson (j : Json) : BindingInfo :=
  ⟨j.getText "type", .ofName (j.getText "direction")⟩

def RetryPolicy.toJson (r : RetryPolicy) : Json :=
  let strategy : List (String × Json) :=
    match r.strategy with
    | .fixedDelay d =>
      [("strategy", .text "fixed_delay"), ("delay_ms", .ofDecimal d.toNat)]
    | .exponentialBackoff a b =>
      [("strategy", .text "exponential_backoff"), ("minimum_interval_ms", .ofDecimal a.toNat),
        ("maximum_interval_ms", .ofDecimal b.toNat)]
  .object (("max_retry_count", .int r.maxRetries.toInt) :: strategy)

/-- A member that is an unsigned integer of 64 bits. -/
def word64 (j : Json) (key : String) : UInt64 := UInt64.ofNat (j.getNat key)

def RetryPolicy.ofJson (j : Json) : RetryPolicy :=
  ⟨Int32.ofInt (j.getInt "max_retry_count"),
    if j.getText "strategy" = "exponential_backoff" then
      .exponentialBackoff (word64 j "minimum_interval_ms") (word64 j "maximum_interval_ms")
    else .fixedDelay (word64 j "delay_ms")⟩

def FunctionMetadata.toJson (m : FunctionMetadata) : Json :=
  .object [("function_id", .text m.functionId), ("name", .text m.name),
    ("entry_point", .text m.entryPoint), ("script_file", .text m.scriptFile),
    ("directory", .text m.directory), ("language", .text m.language),
    ("bindings", .ofEntries BindingInfo.toJson m.bindings),
    ("raw_bindings", .ofTexts m.rawBindings),
    ("retry_options", .ofOption RetryPolicy.toJson m.retry),
    ("is_proxy", .bool m.isProxy)]

def FunctionMetadata.ofJson (j : Json) : FunctionMetadata :=
  { functionId := j.getText "function_id", name := j.getText "name",
    entryPoint := j.getText "entry_point",
    scriptFile := j.getText "script_file", directory := j.getText "directory",
    language := j.getText "language", bindings := (j.get "bindings").asEntries BindingInfo.ofJson,
    rawBindings := j.getTexts "raw_bindings",
    retry := (j.get "retry_options").asOption RetryPolicy.ofJson, isProxy := j.getBool "is_proxy" }

/-! ## Contexts -/

def TraceContext.toJson (t : TraceContext) : Json :=
  .object [("trace_parent", .text t.parent), ("trace_state", .text t.state),
    ("attributes", .ofEntries .text t.attributes)]

def TraceContext.ofJson (j : Json) : TraceContext :=
  ⟨j.getText "trace_parent", j.getText "trace_state", j.getEntries "attributes"⟩

def RetryContext.toJson (r : RetryContext) : Json :=
  .object [("retry_count", .int r.retryCount.toInt), ("max_retry_count", .int r.maxRetries.toInt),
    ("exception", .ofOption ExceptionRecord.toJson r.exception)]

def RetryContext.ofJson (j : Json) : RetryContext :=
  ⟨Int32.ofInt (j.getInt "retry_count"), Int32.ofInt (j.getInt "max_retry_count"), exceptionOf j⟩

/-- The trace and retry contexts of a record. -/
def contextsOf (j : Json) : Option TraceContext × Option RetryContext :=
  ((j.get "trace_context").asOption TraceContext.ofJson,
    (j.get "retry_context").asOption RetryContext.ofJson)

def contextFields (t : Option TraceContext) (r : Option RetryContext) : List (String × Json) :=
  [("trace_context", .ofOption TraceContext.toJson t),
    ("retry_context", .ofOption RetryContext.toJson r)]

/-! ## Log records and the worker's account of itself -/

def LogLevel.all : List (String × LogLevel) :=
  [("trace", .trace), ("debug", .debug), ("information", .information), ("warning", .warning),
    ("error", .error), ("critical", .critical)]

def LogLevel.ofName (s : String) : LogLevel := (LogLevel.all.lookup s).getD .information

def LogLevel.name (l : LogLevel) : String := ((LogLevel.all.find? (·.2 == l)).map (·.1)).getD ""

def LogCategory.name : LogCategory → String
  | .user => "user"
  | .system => "system"

def WorkerMetadata.toJson (w : WorkerMetadata) : Json :=
  .object [("runtime_name", .text w.runtimeName), ("runtime_version", .text w.runtimeVersion),
    ("worker_version", .text w.workerVersion), ("worker_bitness", .text w.workerBitness),
    ("custom_properties", .ofEntries .text w.customProperties)]

def WorkerMetadata.ofJson (j : Json) : WorkerMetadata :=
  ⟨j.getText "runtime_name", j.getText "runtime_version", j.getText "worker_version",
    j.getText "worker_bitness", j.getEntries "custom_properties"⟩

/-! ## Messages -/

/-- The fields of a message. -/
def Message.fields : Message → List (String × Json)
  | .startStream w => [("worker_id", .text w)]
  | .initRequest r =>
    [("host_version", .text r.hostVersion), ("capabilities", .ofEntries .text r.capabilities),
      ("function_app_directory", .text r.functionAppDirectory)]
  | .initResponse r =>
    [("worker_version", .text r.workerVersion), ("capabilities", .ofEntries .text r.capabilities),
      ("worker_metadata", r.workerMetadata.toJson), ("result", r.result.toJson)]
  | .statusRequest | .statusResponse => []
  | .metadataRequest d => [("function_app_directory", .text d)]
  | .metadataResponse r =>
    [("function_metadata", .ofList FunctionMetadata.toJson r.functions),
      ("use_default_metadata_indexing", .bool r.useDefaultIndexing), ("result", r.result.toJson)]
  | .loadRequest r => [("function_id", .text r.functionId), ("metadata", r.metadata.toJson)]
  | .loadResponse r => [("function_id", .text r.functionId), ("result", r.result.toJson)]
  | .invocationRequest r =>
    [("invocation_id", .text r.invocationId), ("function_id", .text r.functionId),
      ("input_data", NamedValue.listToJson r.inputs),
      ("trigger_metadata", .ofEntries WireValue.toJson r.triggerMetadata)] ++
      contextFields r.traceContext r.retryContext
  | .invocationResponse r =>
    [("invocation_id", .text r.invocationId), ("output_data", NamedValue.listToJson r.outputs),
      ("return_value", .ofOption WireValue.toJson r.returnValue), ("result", r.result.toJson)] ++
      contextFields r.traceContext r.retryContext
  | .invocationCancel r =>
    [("invocation_id", .text r.invocationId),
      ("grace_period_ms", .ofOption (fun g => .ofDecimal g.toNat) r.gracePeriodMs)]
  | .reloadRequest r =>
    [("environment_variables", .ofEntries .text r.vars),
      ("function_app_directory", .text r.functionAppDirectory)]
  | .reloadResponse r =>
    [("worker_metadata", r.workerMetadata.toJson),
      ("capabilities", .ofEntries .text r.capabilities), ("result", r.result.toJson)]
  | .terminate g => [("grace_period_ms", .ofDecimal g.toNat)]
  | .log r =>
    [("invocation_id", .ofOption .text r.invocationId), ("category", .text r.category),
      ("level", .text r.level.name), ("message", .text r.message),
      ("exception", .ofOption ExceptionRecord.toJson r.exception),
      ("log_category", .text r.origin.name)]

def Message.toJson (m : Message) : Json := .object (("kind", .text m.kind) :: m.fields)

def Message.ofJson (j : Json) : Message :=
  let result := Outcome.ofJson (j.get "result")
  let capabilities := j.getEntries "capabilities"
  let metadata := WorkerMetadata.ofJson (j.get "worker_metadata")
  let functionId := j.getText "function_id"
  let invocationId := j.getText "invocation_id"
  let directory := j.getText "function_app_directory"
  match j.getText "kind" with
  | "start_stream" => .startStream (j.getText "worker_id")
  | "worker_init_request" => .initRequest ⟨j.getText "host_version", capabilities, directory⟩
  | "worker_init_response" =>
    .initResponse ⟨j.getText "worker_version", capabilities, metadata, result⟩
  | "worker_status_request" => .statusRequest
  | "functions_metadata_request" => .metadataRequest directory
  | "function_metadata_response" =>
    .metadataResponse ⟨(j.getList "function_metadata").map FunctionMetadata.ofJson,
      j.getBool "use_default_metadata_indexing", result⟩
  | "function_load_request" => .loadRequest ⟨functionId, .ofJson (j.get "metadata")⟩
  | "function_load_response" => .loadResponse ⟨functionId, result⟩
  | "invocation_request" =>
    .invocationRequest ⟨invocationId, functionId, NamedValue.listOfJson (j.get "input_data"),
      (j.get "trigger_metadata").asEntries WireValue.ofJson, (contextsOf j).1, (contextsOf j).2⟩
  | "invocation_response" =>
    .invocationResponse ⟨invocationId, NamedValue.listOfJson (j.get "output_data"),
      (j.get "return_value").asOption WireValue.ofJson, result, (contextsOf j).1,
      (contextsOf j).2⟩
  | "invocation_cancel" =>
    .invocationCancel ⟨invocationId,
      (j.get "grace_period_ms").asOption fun g => UInt64.ofNat g.asNat⟩
  | "function_environment_reload_request" =>
    .reloadRequest ⟨j.getEntries "environment_variables", directory⟩
  | "function_environment_reload_response" => .reloadResponse ⟨metadata, capabilities, result⟩
  | "worker_terminate" => .terminate (word64 j "grace_period_ms")
  | "rpc_log" =>
    .log ⟨(j.get "invocation_id").asOption Json.asText, j.getText "category",
      .ofName (j.getText "level"), j.getText "message", exceptionOf j,
      if j.getText "log_category" = "system" then .system else .user⟩
  | _ => .statusResponse

/-! ## Envelopes -/

/-- The version of a record, the current one if there is none. -/
def versionOf (j : Json) : UInt16 :=
  (((j.get "version").asOption Json.asNat).map UInt16.ofNat).getD Protocol.version

def Envelope.ofJson (j : Json) : Envelope :=
  ⟨⟨versionOf j, j.getText "request_id", word64 j "timestamp_ns"⟩, .ofJson (j.get "message")⟩

/-- An envelope without its time. -/
def Envelope.timelessFields (e : Envelope) : List (String × Json) :=
  [("version", .int e.header.version.toNat), ("request_id", .text e.header.requestId),
    ("message", e.payload.toJson)]

def Envelope.toJson (e : Envelope) : Json :=
  .object (("timestamp_ns", .ofDecimal e.header.timestampNs.toNat) :: e.timelessFields)

end FunctionWorker
