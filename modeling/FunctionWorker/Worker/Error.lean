/-
Why the worker refuses a request or ends, and what the host is told about it.
-/
import FunctionWorker.Invocation.Error

namespace FunctionWorker

/-- Why the functions of a directory cannot be listed. -/
inductive MetadataError where
  | io (path reason : String)
  | parse (path reason : String)
  | invalidDirection (function binding direction : String)
  | missingBindings (function : String)
deriving DecidableEq, Inhabited, Repr

def MetadataError.message : MetadataError → String
  | .io path reason => "failed to read " ++ path ++ ": " ++ reason
  | .parse path reason => "failed to parse " ++ path ++ ": " ++ reason
  | .invalidDirection f b d =>
    "function '" ++ f ++ "' binding '" ++ b ++ "' has invalid direction '" ++ d ++ "'"
  | .missingBindings f => "function '" ++ f ++ "' declares no bindings"

/-- Why a stream ends or takes no envelope. -/
inductive BridgeError where
  | closed
  | read (reason : String)
  | write (reason : String)
  | join (reason : String)
deriving DecidableEq, Inhabited, Repr

def BridgeError.message : BridgeError → String
  | .closed => "stream bridge is closed"
  | .read r => "failed to read from host stream: " ++ r
  | .write r => "failed to write to host stream: " ++ r
  | .join r => "bridge task failed: " ++ r

inductive WorkerError where
  | duplicateFunction (id : String)
  | unknownEntryPoint (reference : String)
  | undeclaredOutput (function output : String)
  | metadata (e : MetadataError)
  | reload (reason : String)
  | notReady (state : String)
  | bridge (e : BridgeError)
  | config (text : String)
  | connect (address reason : String)
deriving DecidableEq, Inhabited, Repr

namespace WorkerError

def typeName : WorkerError → String
  | .duplicateFunction _ => "duplicate_function"
  | .unknownEntryPoint _ => "unknown_entry_point"
  | .undeclaredOutput _ _ => "undeclared_output"
  | .metadata _ => "metadata_error"
  | .reload _ => "reload_error"
  | .notReady _ => "not_ready"
  | .bridge _ => "bridge_error"
  | .config _ => "config_error"
  | .connect _ _ => "connect_error"

def message : WorkerError → String
  | .duplicateFunction id => "function already loaded: " ++ id
  | .unknownEntryPoint r => "no function registered for entry point '" ++ r ++ "'"
  | .undeclaredOutput f o =>
    "function '" ++ f ++ "' sets output '" ++ o ++ "' without an output binding"
  | .metadata e => e.message
  | .reload r => "environment reload failed: " ++ r
  | .notReady s => "worker is not ready (state: " ++ s ++ ")"
  | .bridge e => e.message
  | .config t => t
  | .connect a r => "failed to connect to host at " ++ a ++ ": " ++ r

def exception (e : WorkerError) : ExceptionRecord :=
  { typeName := e.typeName, message := e.message, source := workerSource }

end WorkerError

end FunctionWorker
