/-
The options of a worker from all their sources: defaults, a file, variables of the environment and
the command line, each laid over the ones before. A setting of the wrong kind is refused, and the
options then have to be within their limits. Settings that nobody knows are left alone.
-/
import FunctionWorker.Config.CommandLine
import FunctionWorker.Config.Variables
import FunctionWorker.Json.Fields
import FunctionWorker.Toml.Document
import FunctionWorker.Worker.Options

namespace FunctionWorker

/-- Why options cannot be loaded. -/
inductive ConfigError where
  /-- The file is not well formed. -/
  | malformed
  /-- A setting at a path has a value of the wrong kind. -/
  | wrongType (path : List String)
  /-- A number at a path is out of range. -/
  | outOfRange (path : List String)
  | invalid (reason : String)
deriving DecidableEq, Inhabited, Repr

def ConfigError.message : ConfigError → String
  | .malformed => "configuration error: malformed file"
  | .wrongType path => "configuration error: invalid type for " ++ ".".intercalate path
  | .outOfRange path => "configuration error: invalid value for " ++ ".".intercalate path
  | .invalid reason => "invalid configuration: " ++ reason

namespace Config

/-- The file that is read unless the command line names another. -/
def defaultFile : String := "worker.toml"

/-- What the names of variables with settings start with. -/
def variableMark : String := "STRATUS_WORKER_"

/-! ## Reading settings -/

def textAt (path : List String) : Json → Except ConfigError String
  | .text s => .ok s
  | _ => .error (.wrongType path)

def boolAt (path : List String) : Json → Except ConfigError Bool
  | .bool b => .ok b
  | _ => .error (.wrongType path)

def numberAt (greatest : Nat) (path : List String) : Json → Except ConfigError Nat
  | .int i => if 0 ≤ i && i ≤ greatest then .ok i.toNat else .error (.outOfRange path)
  | _ => .error (.wrongType path)

/-- A text that may be absent. -/
def optionalTextAt (path : List String) : Json → Except ConfigError (Option String)
  | .null => .ok none
  | j => some <$> textAt path j

/-- Texts by name. -/
def textsAt (path : List String) : Json → Except ConfigError (List (String × String))
  | .object members => members.mapM fun m => do return (m.1, ← textAt (path ++ [m.1]) m.2)
  | _ => .error (.wrongType path)

end Config

namespace WorkerOptions

open Config

/-- The options that settings stand for. Settings are looked at in the order of their keys, so the
first of them that has a wrong value is the one reported. -/
def ofSettings (j : Json) : Except ConfigError WorkerOptions := do
  let at_ {α : Type} (read : List String → Json → Except ConfigError α) (key : String) :
      Except ConfigError α := read [key] (j.get key)
  let capabilities ← at_ textsAt "capabilities"
  let showUserErrors ← at_ boolAt "enable_user_code_exception"
  let functionAppDirectory ← at_ optionalTextAt "function_app_directory"
  let host ← at_ textAt "host"
  let maxMessageLength ← at_ (numberAt 0xffffffffffffffff) "max_message_length"
  let tcpPort ← at_ (numberAt 0xffff) "port"
  let requestId ← at_ textAt "request_id"
  let workerId ← at_ textAt "worker_id"
  return { host, workerId, requestId, maxMessageLength, showUserErrors, capabilities,
           functionAppDirectory, tcpPort := UInt16.ofNat tcpPort }

/-- The settings that stand for options. -/
def toSettings (o : WorkerOptions) : Json :=
  .ofMembers
    [("host", .text o.host), ("port", .int o.tcpPort.toNat), ("worker_id", .text o.workerId),
      ("request_id", .text o.requestId), ("max_message_length", .int o.maxMessageLength),
      ("enable_user_code_exception", .bool o.showUserErrors),
      ("capabilities", .ofMembers (o.capabilities.map fun c => (c.1, .text c.2))),
      ("function_app_directory", .ofOption .text o.functionAppDirectory)]

/-- The options if they are within their limits. -/
def checked (o : WorkerOptions) : Except ConfigError WorkerOptions :=
  match o.fault with
  | some reason => .error (.invalid reason)
  | none => .ok o

end WorkerOptions

/-- The settings of a command line. -/
def CommandLine.toSettings (c : CommandLine) : Json :=
  let entry (key : String) (v : Option Json) : List (String × Json) :=
    (v.map fun j => (key, j)).toList
  .ofMembers <|
    entry "host" (c.host.map .text) ++ entry "port" (c.tcpPort.map fun p => .int p.toNat) ++
    entry "worker_id" (c.workerId.map .text) ++ entry "request_id" (c.requestId.map .text) ++
    entry "max_message_length" (c.maxMessageLength.map fun n => .int n)

namespace Config

/-- The options of layers of settings over the defaults; a worker that is given no identity gets
the one that was generated for it. -/
def ofLayers (generatedId : String) (layers : List Json) : Except ConfigError WorkerOptions :=
  let defaults := WorkerOptions.toSettings { workerId := generatedId }
  (WorkerOptions.ofSettings (layers.foldl overlay defaults)).bind WorkerOptions.checked

/-- The settings of a file; one that does not exist has none. -/
def ofFile : Option String → Except ConfigError Json
  | none => .ok (.object [])
  | some content =>
    match Toml.ofText content with
    | some j => .ok j
    | none => .error .malformed

/-- The options of a file alone. -/
def parse (generatedId content : String) : Except ConfigError WorkerOptions := do
  let file ← ofFile (some content)
  ofLayers generatedId [file]

/-- The options of a file, variables and a command line. -/
def load (generatedId : String) (file : Option String) (vars : List (String × String))
    (c : CommandLine) : Except ConfigError WorkerOptions := do
  let file ← ofFile file
  ofLayers generatedId [file, ofVariables variableMark vars, c.toSettings]

end Config

end FunctionWorker
