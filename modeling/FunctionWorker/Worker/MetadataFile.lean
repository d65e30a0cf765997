/-
The file `functions.metadata`, which lists functions in JSON. An entry names its function and
declares its bindings; the rest may be left out.
-/
import FunctionWorker.Json.Reader
import FunctionWorker.Worker.Catalog

namespace FunctionWorker.MetadataFile

def fileName : String := "functions.metadata"

/-! ## Reading -/

/-- The declaration of a binding in the file. -/
structure BindingEntry where
  name : String
  bindingType : String
  direction : String
deriving DecidableEq, Inhabited, Repr

structure Entry where
  name : String
  entryPoint : Option String
  scriptFile : String
  language : Option String
  bindings : List BindingEntry
  retry : Option RetryPolicy
deriving Inhabited, Repr

def bindingEntry? (r : Json.Raw) : Option BindingEntry := do
  match ← Json.Raw.fields? ["name", "type", "direction"] r with
  | [n, t, d] =>
    return ⟨← n.required Json.Raw.text?, ← t.required Json.Raw.text?,
      ← d.required Json.Raw.text?⟩
  | _ => none

/-- How deeply the text of a retry policy may be nested further, inside its entry of the list. -/
def retryDepth : Nat := Json.maxDepth - 2

def milliseconds? (r : Json.Raw) : Option UInt64 :=
  (Json.Raw.int? .u64 r).map fun i => UInt64.ofNat i.toNat

def count? (r : Json.Raw) : Option Int32 := (Json.Raw.int? .i32 r).map Int32.ofInt

/-- A strategy by its name, with its fields. -/
def strategy? (name : String) (fields : Json.Raw) : Option RetryPolicy := do
  match name with
  | "fixedDelay" =>
    match ← Json.Raw.fields? ["maxRetryCount", "delayIntervalMs"] fields with
    | [n, d] => return ⟨← n.required count?, .fixedDelay (← d.required milliseconds?)⟩
    | _ => none
  | "exponentialBackoff" =>
    match ← Json.Raw.fields? ["maxRetryCount", "minimumIntervalMs", "maximumIntervalMs"] fields with
    | [n, a, b] =>
      return ⟨← n.required count?,
        .exponentialBackoff (← a.required milliseconds?) (← b.required milliseconds?)⟩
    | _ => none
  | _ => none

/-- A retry policy is an object that names its strategy once, or a list that starts with the name.
Its members are read as values even where they are not asked for. -/
def retry? (r : Json.Raw) : Option RetryPolicy := do
  let _ ← Json.Raw.toJson retryDepth r
  match r with
  | .object members =>
    let keyed ← members.mapM fun m => (Json.Escaped.text? m.1).map fun k => (k, m)
    match keyed.filter (·.1 == "strategy") with
    | [tag] =>
      strategy? (← Json.Raw.text? tag.2.2)
        (.object ((keyed.filter (·.1 != "strategy")).map (·.2)))
    | _ => none
  | .array (tag :: fields) => strategy? (← Json.Raw.text? tag) (.array fields)
  | _ => none

def entry? (r : Json.Raw) : Option Entry := do
  match ←
    Json.Raw.fields? ["name", "entryPoint", "scriptFile", "language", "bindings", "retry"] r with
  | [n, e, s, l, b, t] =>
    return ⟨← n.required Json.Raw.text?, ← e.defaulted (Json.Raw.optional? Json.Raw.text?) none,
      ← s.defaulted Json.Raw.text? "", ← l.defaulted (Json.Raw.optional? Json.Raw.text?) none,
      ← b.defaulted (Json.Raw.list? bindingEntry?) [],
      ← t.defaulted (Json.Raw.optional? retry?) none⟩
  | _ => none

/-- The entries of a file. -/
def entries? (text : String) : Option (List Entry) :=
  (Json.Raw.ofBytes (Text.utf8 text)).bind (Json.Raw.list? entry?)

/-! ## Metadata -/

/-- The direction of a name, whatever its case. -/
def direction? (name : String) : Option Direction :=
  match Text.fold name with
  | "in" => some .input
  | "out" => some .output
  | "inout" => some .both
  | _ => none

/-- The declaration of a binding as a JSON text. -/
def rawBinding (b : BindingEntry) : String :=
  (Json.object [("name", .text b.name), ("type", .text b.bindingType),
    ("direction", .text b.direction)]).render

/-- The bindings of a function, up to the first of unknown direction. -/
def bindings (function : String) :
    List BindingEntry → Except MetadataError (List (String × BindingInfo))
  | [] => .ok []
  | b :: bs =>
    match direction? b.direction with
    | none => .error (.invalidDirection function b.name b.direction)
    | some d => (bindings function bs).map ((b.name, ⟨b.bindingType, d⟩) :: ·)

def toMetadata (e : Entry) (functionId directory : String) :
    Except MetadataError FunctionMetadata :=
  (bindings e.name e.bindings).map fun bs =>
    { functionId, name := e.name, entryPoint := e.entryPoint.getD e.name,
      scriptFile := e.scriptFile, directory, language := e.language.getD FunctionWorker.language,
      bindings := bs, rawBindings := e.bindings.map rawBinding, retry := e.retry }

/-- The metadata of entries in order, up to the first that is refused. -/
def allMetadata (directory : String) :
    List Entry → Code (Except MetadataError (List FunctionMetadata))
  | [] => .done (.ok [])
  | e :: es =>
    .call .identity fun (id : String) =>
      match toMetadata e id directory with
      | .error err => .done (.error err)
      | .ok m => (allMetadata directory es).bind fun ms => .done (ms.map (m :: ·))

/-! ## Files -/

/-- A path in a directory. -/
def join (directory file : String) : String :=
  if directory = "" || directory.endsWith "/" then directory ++ file else directory ++ "/" ++ file

/-- The names on a path, less those that stand for the directory they are in. -/
def names (path : String) : List String :=
  (path.splitOn "/").filter fun n => n != "" && n != "."

/-- The content of the file at a path, or why there is none. -/
def content (files : List (String × Bytes)) (path : String) : Except String Bytes :=
  let wanted := names path
  if path.contains '\x00' then .error "file name contained an unexpected NUL byte"
  else match files.find? fun f => (names f.1).isPrefixOf wanted with
    | none => .error "No such file or directory (os error 2)"
    | some f =>
      if names f.1 = wanted then .ok f.2 else .error "Not a directory (os error 20)"

/-- Reads the file of a directory, the files being given by their paths. -/
def provide (files : List (String × Bytes)) (directory : String) :
    Code (Except MetadataError (List FunctionMetadata)) :=
  let path := join directory fileName
  match content files path with
  | .error reason => .done (.error (.io path reason))
  | .ok bytes =>
    match Text.ofUtf8? bytes with
    | none => .done (.error (.io path "stream did not contain valid UTF-8"))
    | some text =>
      match entries? text with
      | none => .done (.error (.parse path "malformed text"))
      | some es => allMetadata directory es

/-- Every function needs a binding. -/
def validate (functions : List FunctionMetadata) : Except MetadataError Unit :=
  match functions.find? (·.bindings.isEmpty) with
  | some f => .error (.missingBindings f.name)
  | none => .ok ()

end FunctionWorker.MetadataFile
