/-
The functions that a worker can load. An entry is the code of a function with its parameters and
bindings. When the host loads a function it refers to an entry, and may bring bindings that take
the place of the entry's; every parameter for an output then needs an output of its name.
-/
import FunctionWorker.Json.Printer
import FunctionWorker.Worker.Error

namespace FunctionWorker

/-- The language of the functions. -/
def language : String := "rust"

structure CatalogEntry where
  name : String
  entryPoint : String
  parameters : List Parameter := []
  bindings : List (String × BindingInfo) := []
  retry : Option RetryPolicy := none
  handler : HandlerId
deriving Inhabited

namespace CatalogEntry

/-! ## Making entries -/

/-- An entry whose entry point is its name. -/
def ofHandler (name : String) (handler : HandlerId) : CatalogEntry :=
  { name, entryPoint := name, handler }

def withEntryPoint (e : CatalogEntry) (entryPoint : String) : CatalogEntry := { e with entryPoint }

def withRetry (e : CatalogEntry) (retry : RetryPolicy) : CatalogEntry := { e with retry := some retry }

/-- Adds a parameter with its binding. -/
def parameter (e : CatalogEntry) (p : Parameter) (b : BindingInfo) : CatalogEntry :=
  { e with bindings := e.bindings ++ [(p.name, b)], parameters := e.parameters ++ [p] }

def trigger (e : CatalogEntry) (name : String) (type : ParameterType) (binding : String) :
    CatalogEntry :=
  e.parameter ⟨name, type, .trigger⟩ ⟨binding, .input⟩

def input (e : CatalogEntry) (name : String) (type : ParameterType) (binding : String) :
    CatalogEntry :=
  e.parameter ⟨name, type, .input⟩ ⟨binding, .input⟩

/-- Adds a parameter for an output that takes values of a type. -/
def output (e : CatalogEntry) (name element binding : String) : CatalogEntry :=
  e.parameter ⟨name, .output element, .output⟩ ⟨binding, .output⟩

/-- Adds an output without a parameter. -/
def outputBinding (e : CatalogEntry) (name binding : String) : CatalogEntry :=
  { e with bindings := e.bindings ++ [(name, ⟨binding, .output⟩)] }

/-- Adds the output of what the function returns. -/
def returns (e : CatalogEntry) (binding : String) : CatalogEntry :=
  e.outputBinding returnBinding binding

/-- Adds a parameter without a binding. -/
def context (e : CatalogEntry) (name : String) (type : ParameterType) : CatalogEntry :=
  { e with parameters := e.parameters ++ [⟨name, type, .context⟩] }

/-! ## For the host -/

/-- The declaration of a binding as a JSON text. -/
def rawBinding (b : String × BindingInfo) : String :=
  (Json.ofMembers [("name", .text b.1), ("type", .text b.2.bindingType),
    ("direction", .text b.2.direction.name)]).render

def toMetadata (e : CatalogEntry) (functionId directory : String) : FunctionMetadata :=
  { functionId, name := e.name, entryPoint := e.entryPoint, directory, language,
    bindings := e.bindings, rawBindings := e.bindings.map rawBinding, retry := e.retry }

/-! ## Loading -/

/-- Whether bindings have an output of a name. -/
def declaresOutput (bindings : List (String × BindingInfo)) (name : String) : Bool :=
  bindings.any fun b => Text.sameName b.1 name && b.2.direction.isOutput

/-- The bindings in effect: those of the host, if it brings any. -/
def effectiveBindings (e : CatalogEntry) (m : FunctionMetadata) : List (String × BindingInfo) :=
  if m.bindings.isEmpty then e.bindings else m.bindings

/-- The definition that a load request makes of an entry. -/
def instantiate (e : CatalogEntry) (r : LoadRequest) : Except WorkerError Definition :=
  let bindings := e.effectiveBindings r.metadata
  match e.parameters.find? fun p => p.role = .output && !declaresOutput bindings p.name with
  | some p => .error (.undeclaredOutput e.name p.name)
  | none =>
    .ok
      { id := r.functionId
        name := if r.metadata.name = "" then e.name else r.metadata.name
        entryPoint := e.entryPoint
        parameters := e.parameters
        bindings
        outputs := (bindings.filter (·.2.direction.isOutput)).map (·.1)
        retry := r.metadata.retry.or e.retry
        handler := e.handler }

end CatalogEntry

structure Catalog where
  entries : List CatalogEntry := []

namespace Catalog

/-- The entry that metadata refer to: the first with their entry point, or else the first with
their name. -/
def resolve (c : Catalog) (m : FunctionMetadata) : Option CatalogEntry :=
  (c.entries.find? fun e => m.entryPoint != "" && e.entryPoint == m.entryPoint).or
    (c.entries.find? fun e => Text.sameName e.name m.name)

def instantiate (c : Catalog) (r : LoadRequest) : Except WorkerError Definition :=
  match c.resolve r.metadata with
  | some e => e.instantiate r
  | none =>
    .error (.unknownEntryPoint
      (if r.metadata.entryPoint = "" then r.metadata.name else r.metadata.entryPoint))

/-- The metadata of all entries, each with an identity of its own. -/
def metadata (directory : String) : List CatalogEntry → Code (List FunctionMetadata)
  | [] => .done []
  | e :: es =>
    .call .identity fun (id : String) =>
      (metadata directory es).bind fun ms => .done (e.toMetadata id directory :: ms)

end Catalog

end FunctionWorker
