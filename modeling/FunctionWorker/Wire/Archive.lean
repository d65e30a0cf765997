/-
The archived form of envelopes: the order of the fields of every message part and the tag of every
variant.
-/
import FunctionWorker.Archive.Format
import FunctionWorker.Wire.Envelope

namespace FunctionWorker.Archive.Format

/-! ## Values -/

def httpRecord : Format HttpRecord where
  layout := .record
    [text.layout, text.layout, pairs.layout, pairs.layout, (option text).layout,
      (option bytes).layout]
  toNode h := .record
    [text.toNode h.method, text.toNode h.url, pairs.toNode h.headers, pairs.toNode h.query,
      (option text).toNode h.statusCode, (option bytes).toNode h.body]
  ofNode?
    | .record [a, b, c, d, e, f] => do
      return {
        method := ← text.ofNode? a
        url := ← text.ofNode? b
        headers := ← pairs.ofNode? c
        query := ← pairs.ofNode? d
        statusCode := ← (option text).ofNode? e
        body := ← (option bytes).ofNode? f }
    | _ => none

def wireValue : Format WireValue where
  layout := .choice
    [[], [text.layout], [bytes.layout], [text.layout], [httpRecord.layout], [(list text).layout],
      [(list bytes).layout], [(list double).layout], [(list i64).layout]]
  toNode
    | .none => .choice 0 []
    | .text s => .choice 1 [text.toNode s]
    | .bytes b => .choice 2 [bytes.toNode b]
    | .json s => .choice 3 [text.toNode s]
    | .http h => .choice 4 [httpRecord.toNode h]
    | .texts xs => .choice 5 [(list text).toNode xs]
    | .byteStrings xs => .choice 6 [(list bytes).toNode xs]
    | .doubles xs => .choice 7 [(list double).toNode xs]
    | .integers xs => .choice 8 [(list i64).toNode xs]
  ofNode?
    | .choice 0 [] => some .none
    | .choice 1 [n] => (text.ofNode? n).map .text
    | .choice 2 [n] => (bytes.ofNode? n).map .bytes
    | .choice 3 [n] => (text.ofNode? n).map .json
    | .choice 4 [n] => (httpRecord.ofNode? n).map .http
    | .choice 5 [n] => ((list text).ofNode? n).map .texts
    | .choice 6 [n] => ((list bytes).ofNode? n).map .byteStrings
    | .choice 7 [n] => ((list double).ofNode? n).map .doubles
    | .choice 8 [n] => ((list i64).ofNode? n).map .integers
    | _ => none

def namedValue : Format NamedValue where
  layout := .record [text.layout, wireValue.layout]
  toNode v := .record [text.toNode v.name, wireValue.toNode v.value]
  ofNode?
    | .record [a, b] => do return ⟨← text.ofNode? a, ← wireValue.ofNode? b⟩
    | _ => none

/-! ## Outcomes -/

def status : Format Status where
  layout := .choice [[], [], []]
  toNode
    | .failure => .choice 0 []
    | .success => .choice 1 []
    | .cancelled => .choice 2 []
  ofNode?
    | .choice 0 [] => some .failure
    | .choice 1 [] => some .success
    | .choice 2 [] => some .cancelled
    | _ => none

def exceptionRecord : Format ExceptionRecord where
  layout := .record [text.layout, text.layout, text.layout, text.layout, bool.layout]
  toNode e := .record
    [text.toNode e.message, text.toNode e.typeName, text.toNode e.source,
      text.toNode e.stackTrace, bool.toNode e.isUser]
  ofNode?
    | .record [a, b, c, d, e] => do
      return {
        message := ← text.ofNode? a
        typeName := ← text.ofNode? b
        source := ← text.ofNode? c
        stackTrace := ← text.ofNode? d
        isUser := ← bool.ofNode? e }
    | _ => none

def outcome : Format Outcome where
  layout := .record [status.layout, (option exceptionRecord).layout]
  toNode o := .record [status.toNode o.status, (option exceptionRecord).toNode o.exception]
  ofNode?
    | .record [a, b] => do return ⟨← status.ofNode? a, ← (option exceptionRecord).ofNode? b⟩
    | _ => none

/-! ## Functions -/

def direction : Format Direction where
  layout := .choice [[], [], []]
  toNode
    | .input => .choice 0 []
    | .output => .choice 1 []
    | .both => .choice 2 []
  ofNode?
    | .choice 0 [] => some .input
    | .choice 1 [] => some .output
    | .choice 2 [] => some .both
    | _ => none

def bindingInfo : Format BindingInfo where
  layout := .record [text.layout, direction.layout]
  toNode b := .record [text.toNode b.bindingType, direction.toNode b.direction]
  ofNode?
    | .record [a, b] => do return ⟨← text.ofNode? a, ← direction.ofNode? b⟩
    | _ => none

def retryStrategy : Format RetryStrategy where
  layout := .choice [[u64.layout], [u64.layout, u64.layout]]
  toNode
    | .fixedDelay d => .choice 0 [u64.toNode d]
    | .exponentialBackoff least most => .choice 1 [u64.toNode least, u64.toNode most]
  ofNode?
    | .choice 0 [a] => (u64.ofNode? a).map .fixedDelay
    | .choice 1 [a, b] => do return .exponentialBackoff (← u64.ofNode? a) (← u64.ofNode? b)
    | _ => none

def retryPolicy : Format RetryPolicy where
  layout := .record [i32.layout, retryStrategy.layout]
  toNode p := .record [i32.toNode p.maxRetries, retryStrategy.toNode p.strategy]
  ofNode?
    | .record [a, b] => do return ⟨← i32.ofNode? a, ← retryStrategy.ofNode? b⟩
    | _ => none

def functionMetadata : Format FunctionMetadata where
  layout := .record
    [text.layout, text.layout, text.layout, text.layout, text.layout, text.layout,
      (list (pair text bindingInfo)).layout, (list text).layout, (option retryPolicy).layout,
      bool.layout]
  toNode m := .record
    [text.toNode m.functionId, text.toNode m.name, text.toNode m.entryPoint,
      text.toNode m.scriptFile, text.toNode m.directory, text.toNode m.language,
      (list (pair text bindingInfo)).toNode m.bindings, (list text).toNode m.rawBindings,
      (option retryPolicy).toNode m.retry, bool.toNode m.isProxy]
  ofNode?
    | .record [a, b, c, d, e, f, g, h, i, j] => do
      return {
        functionId := ← text.ofNode? a
        name := ← text.ofNode? b
        entryPoint := ← text.ofNode? c
        scriptFile := ← text.ofNode? d
        directory := ← text.ofNode? e
        language := ← text.ofNode? f
        bindings := ← (list (pair text bindingInfo)).ofNode? g
        rawBindings := ← (list text).ofNode? h
        retry := ← (option retryPolicy).ofNode? i
        isProxy := ← bool.ofNode? j }
    | _ => none

/-! ## Invocations -/

def traceContext : Format TraceContext where
  layout := .record [text.layout, text.layout, pairs.layout]
  toNode t := .record [text.toNode t.parent, text.toNode t.state, pairs.toNode t.attributes]
  ofNode?
    | .record [a, b, c] => do return ⟨← text.ofNode? a, ← text.ofNode? b, ← pairs.ofNode? c⟩
    | _ => none

def retryContext : Format RetryContext where
  layout := .record [i32.layout, i32.layout, (option exceptionRecord).layout]
  toNode r := .record
    [i32.toNode r.retryCount, i32.toNode r.maxRetries, (option exceptionRecord).toNode r.exception]
  ofNode?
    | .record [a, b, c] => do
      return ⟨← i32.ofNode? a, ← i32.ofNode? b, ← (option exceptionRecord).ofNode? c⟩
    | _ => none

def invocationRequest : Format InvocationRequest where
  layout := .record
    [text.layout, text.layout, (list namedValue).layout, (list (pair text wireValue)).layout,
      (option traceContext).layout, (option retryContext).layout]
  toNode r := .record
    [text.toNode r.invocationId, text.toNode r.functionId, (list namedValue).toNode r.inputs,
      (list (pair text wireValue)).toNode r.triggerMetadata,
      (option traceContext).toNode r.traceContext, (option retryContext).toNode r.retryContext]
  ofNode?
    | .record [a, b, c, d, e, f] => do
      return {
        invocationId := ← text.ofNode? a
        functionId := ← text.ofNode? b
        inputs := ← (list namedValue).ofNode? c
        triggerMetadata := ← (list (pair text wireValue)).ofNode? d
        traceContext := ← (option traceContext).ofNode? e
        retryContext := ← (option retryContext).ofNode? f }
    | _ => none

def invocationResponse : Format InvocationResponse where
  layout := .record
    [text.layout, (list namedValue).layout, (option wireValue).layout, outcome.layout,
      (option traceContext).layout, (option retryContext).layout]
  toNode r := .record
    [text.toNode r.invocationId, (list namedValue).toNode r.outputs,
      (option wireValue).toNode r.returnValue, outcome.toNode r.result,
      (option traceContext).toNode r.traceContext, (option retryContext).toNode r.retryContext]
  ofNode?
    | .record [a, b, c, d, e, f] => do
      return {
        invocationId := ← text.ofNode? a
        outputs := ← (list namedValue).ofNode? b
        returnValue := ← (option wireValue).ofNode? c
        result := ← outcome.ofNode? d
        traceContext := ← (option traceContext).ofNode? e
        retryContext := ← (option retryContext).ofNode? f }
    | _ => none

def invocationCancel : Format InvocationCancel where
  layout := .record [text.layout, (option u64).layout]
  toNode c := .record [text.toNode c.invocationId, (option u64).toNode c.gracePeriodMs]
  ofNode?
    | .record [a, b] => do return ⟨← text.ofNode? a, ← (option u64).ofNode? b⟩
    | _ => none

/-! ## Control messages -/

def workerMetadata : Format WorkerMetadata where
  layout := .record [text.layout, text.layout, text.layout, text.layout, pairs.layout]
  toNode m := .record
    [text.toNode m.runtimeName, text.toNode m.runtimeVersion, text.toNode m.workerVersion,
      text.toNode m.workerBitness, pairs.toNode m.customProperties]
  ofNode?
    | .record [a, b, c, d, e] => do
      return {
        runtimeName := ← text.ofNode? a
        runtimeVersion := ← text.ofNode? b
        workerVersion := ← text.ofNode? c
        workerBitness := ← text.ofNode? d
        customProperties := ← pairs.ofNode? e }
    | _ => none

def initRequest : Format InitRequest where
  layout := .record [text.layout, pairs.layout, text.layout]
  toNode r := .record
    [text.toNode r.hostVersion, pairs.toNode r.capabilities, text.toNode r.functionAppDirectory]
  ofNode?
    | .record [a, b, c] => do return ⟨← text.ofNode? a, ← pairs.ofNode? b, ← text.ofNode? c⟩
    | _ => none

def initResponse : Format InitResponse where
  layout := .record [text.layout, pairs.layout, workerMetadata.layout, outcome.layout]
  toNode r := .record
    [text.toNode r.workerVersion, pairs.toNode r.capabilities,
      workerMetadata.toNode r.workerMetadata, outcome.toNode r.result]
  ofNode?
    | .record [a, b, c, d] => do
      return {
        workerVersion := ← text.ofNode? a
        capabilities := ← pairs.ofNode? b
        workerMetadata := ← workerMetadata.ofNode? c
        result := ← outcome.ofNode? d }
    | _ => none

def metadataResponse : Format MetadataResponse where
  layout := .record [(list functionMetadata).layout, bool.layout, outcome.layout]
  toNode r := .record
    [(list functionMetadata).toNode r.functions, bool.toNode r.useDefaultIndexing,
      outcome.toNode r.result]
  ofNode?
    | .record [a, b, c] => do
      return ⟨← (list functionMetadata).ofNode? a, ← bool.ofNode? b, ← outcome.ofNode? c⟩
    | _ => none

def loadRequest : Format LoadRequest where
  layout := .record [text.layout, functionMetadata.layout]
  toNode r := .record [text.toNode r.functionId, functionMetadata.toNode r.metadata]
  ofNode?
    | .record [a, b] => do return ⟨← text.ofNode? a, ← functionMetadata.ofNode? b⟩
    | _ => none

def loadResponse : Format LoadResponse where
  layout := .record [text.layout, outcome.layout]
  toNode r := .record [text.toNode r.functionId, outcome.toNode r.result]
  ofNode?
    | .record [a, b] => do return ⟨← text.ofNode? a, ← outcome.ofNode? b⟩
    | _ => none

def reloadRequest : Format ReloadRequest where
  layout := .record [pairs.layout, text.layout]
  toNode r := .record [pairs.toNode r.vars, text.toNode r.functionAppDirectory]
  ofNode?
    | .record [a, b] => do return ⟨← pairs.ofNode? a, ← text.ofNode? b⟩
    | _ => none

def reloadResponse : Format ReloadResponse where
  layout := .record [workerMetadata.layout, pairs.layout, outcome.layout]
  toNode r := .record
    [workerMetadata.toNode r.workerMetadata, pairs.toNode r.capabilities, outcome.toNode r.result]
  ofNode?
    | .record [a, b, c] => do
      return ⟨← workerMetadata.ofNode? a, ← pairs.ofNode? b, ← outcome.ofNode? c⟩
    | _ => none

/-! ## Log records -/

def logLevel : Format LogLevel where
  layout := .choice [[], [], [], [], [], []]
  toNode
    | .trace => .choice 0 []
    | .debug => .choice 1 []
    | .information => .choice 2 []
    | .warning => .choice 3 []
    | .error => .choice 4 []
    | .critical => .choice 5 []
  ofNode?
    | .choice 0 [] => some .trace
    | .choice 1 [] => some .debug
    | .choice 2 [] => some .information
    | .choice 3 [] => some .warning
    | .choice 4 [] => some .error
    | .choice 5 [] => some .critical
    | _ => none

def logCategory : Format LogCategory where
  layout := .choice [[], []]
  toNode
    | .user => .choice 0 []
    | .system => .choice 1 []
  ofNode?
    | .choice 0 [] => some .user
    | .choice 1 [] => some .system
    | _ => none

def logRecord : Format LogRecord where
  layout := .record
    [(option text).layout, text.layout, logLevel.layout, text.layout,
      (option exceptionRecord).layout, logCategory.layout]
  toNode r := .record
    [(option text).toNode r.invocationId, text.toNode r.category, logLevel.toNode r.level,
      text.toNode r.message, (option exceptionRecord).toNode r.exception,
      logCategory.toNode r.origin]
  ofNode?
    | .record [a, b, c, d, e, f] => do
      return {
        invocationId := ← (option text).ofNode? a
        category := ← text.ofNode? b
        level := ← logLevel.ofNode? c
        message := ← text.ofNode? d
        exception := ← (option exceptionRecord).ofNode? e
        origin := ← logCategory.ofNode? f }
    | _ => none

/-! ## Envelopes -/

/-- A record of one field. -/
def single {α : Type} (f : Format α) : Format α where
  layout := .record [f.layout]
  toNode x := .record [f.toNode x]
  ofNode?
    | .record [n] => f.ofNode? n
    | _ => none

def message : Format Message where
  layout := .choice
    [[(single text).layout], [initRequest.layout], [initResponse.layout], [], [],
      [(single text).layout], [metadataResponse.layout], [loadRequest.layout],
      [loadResponse.layout], [invocationRequest.layout], [invocationResponse.layout],
      [invocationCancel.layout], [reloadRequest.layout], [reloadResponse.layout],
      [(single u64).layout], [logRecord.layout]]
  toNode
    | .startStream w => .choice 0 [(single text).toNode w]
    | .initRequest r => .choice 1 [initRequest.toNode r]
    | .initResponse r => .choice 2 [initResponse.toNode r]
    | .statusRequest => .choice 3 []
    | .statusResponse => .choice 4 []
    | .metadataRequest d => .choice 5 [(single text).toNode d]
    | .metadataResponse r => .choice 6 [metadataResponse.toNode r]
    | .loadRequest r => .choice 7 [loadRequest.toNode r]
    | .loadResponse r => .choice 8 [loadResponse.toNode r]
    | .invocationRequest r => .choice 9 [invocationRequest.toNode r]
    | .invocationResponse r => .choice 10 [invocationResponse.toNode r]
    | .invocationCancel r => .choice 11 [invocationCancel.toNode r]
    | .reloadRequest r => .choice 12 [reloadRequest.toNode r]
    | .reloadResponse r => .choice 13 [reloadResponse.toNode r]
    | .terminate g => .choice 14 [(single u64).toNode g]
    | .log r => .choice 15 [logRecord.toNode r]
  ofNode?
    | .choice 0 [n] => ((single text).ofNode? n).map .startStream
    | .choice 1 [n] => (initRequest.ofNode? n).map .initRequest
    | .choice 2 [n] => (initResponse.ofNode? n).map .initResponse
    | .choice 3 [] => some .statusRequest
    | .choice 4 [] => some .statusResponse
    | .choice 5 [n] => ((single text).ofNode? n).map .metadataRequest
    | .choice 6 [n] => (metadataResponse.ofNode? n).map .metadataResponse
    | .choice 7 [n] => (loadRequest.ofNode? n).map .loadRequest
    | .choice 8 [n] => (loadResponse.ofNode? n).map .loadResponse
    | .choice 9 [n] => (invocationRequest.ofNode? n).map .invocationRequest
    | .choice 10 [n] => (invocationResponse.ofNode? n).map .invocationResponse
    | .choice 11 [n] => (invocationCancel.ofNode? n).map .invocationCancel
    | .choice 12 [n] => (reloadRequest.ofNode? n).map .reloadRequest
    | .choice 13 [n] => (reloadResponse.ofNode? n).map .reloadResponse
    | .choice 14 [n] => ((single u64).ofNode? n).map .terminate
    | .choice 15 [n] => (logRecord.ofNode? n).map .log
    | _ => none

def header : Format Header where
  layout := .record [u16.layout, text.layout, u64.layout]
  toNode h := .record [u16.toNode h.version, text.toNode h.requestId, u64.toNode h.timestampNs]
  ofNode?
    | .record [a, b, c] => do return ⟨← u16.ofNode? a, ← text.ofNode? b, ← u64.ofNode? c⟩
    | _ => none

def envelope : Format Envelope where
  layout := .record [header.layout, message.layout]
  toNode e := .record [header.toNode e.header, message.toNode e.payload]
  ofNode?
    | .record [a, b] => do return ⟨← header.ofNode? a, ← message.ofNode? b⟩
    | _ => none

end FunctionWorker.Archive.Format
