/-
The command line. An option is given at most once, its value behind `=` or as the next argument;
there are no other arguments. What is missing of the address is taken from two variables.
-/
import FunctionWorker.Integer

namespace FunctionWorker

/-- The options that take a value. -/
inductive Flag where
  | host
  | tcpPort
  | workerId
  | requestId
  | maxMessageLength
  | config
deriving DecidableEq, Inhabited, Repr

structure CommandLine where
  host : Option String := none
  tcpPort : Option UInt16 := none
  workerId : Option String := none
  requestId : Option String := none
  maxMessageLength : Option Nat := none
  config : Option String := none
deriving DecidableEq, Inhabited, Repr

/-- Why a command line is not accepted. -/
inductive CommandLineError where
  | missingValue
  | invalidValue
  /-- An argument that is no option, or not one that is known. -/
  | unknown
  | repeated
  /-- A value for an option that takes none. -/
  | unneededValue
  /-- Help was asked for. -/
  | help
  /-- The version was asked for. -/
  | version
deriving DecidableEq, Inhabited, Repr

namespace CommandLine

/-! ## Values -/

/-- Whether an option has been given. -/
def has (c : CommandLine) : Flag → Bool
  | .host => c.host.isSome
  | .tcpPort => c.tcpPort.isSome
  | .workerId => c.workerId.isSome
  | .requestId => c.requestId.isSome
  | .maxMessageLength => c.maxMessageLength.isSome
  | .config => c.config.isSome

/-- A whole number read within some bounds and accepted within others. -/
def number (bounds : Integer.Bounds) (greatest : Int) (s : String) : Except CommandLineError Nat :=
  match Integer.ofText bounds s with
  | .ok i => if 0 ≤ i && i ≤ greatest then .ok i.toNat else .error .invalidValue
  | .error _ => .error .invalidValue

/-- Gives an option its value. -/
def set (c : CommandLine) (f : Flag) (v : String) : Except CommandLineError CommandLine :=
  if c.has f then .error .repeated
  else
    match f with
    | .host => .ok { c with host := some v }
    | .tcpPort =>
      (number .i64 0xffff v).map fun n => { c with tcpPort := some (UInt16.ofNat n) }
    | .workerId => .ok { c with workerId := some v }
    | .requestId => .ok { c with requestId := some v }
    | .maxMessageLength =>
      (number .u64 0xffffffffffffffff v).map fun n => { c with maxMessageLength := some n }
    | .config => if v.isEmpty then .error .missingValue else .ok { c with config := some v }

/-! ## Arguments -/

/-- What an argument is, seen by itself. -/
inductive Argument where
  /-- Only arguments without a dash follow. -/
  | separator
  | option (f : Flag) (value : Option String)
  | help
  | version
  | unneededValue
  | unknown
  | plain (s : String)

def longFlags : List (String × Flag) :=
  [("host", .host), ("port", .tcpPort), ("worker-id", .workerId), ("request-id", .requestId),
    ("max-message-length", .maxMessageLength), ("config", .config)]

/-- A long option: its name, and its value behind the first `=`. -/
def longArgument (body : List Char) : Argument :=
  let name := String.ofList (body.takeWhile (· ≠ '='))
  let value :=
    match body.dropWhile (· ≠ '=') with
    | _ :: v => some (String.ofList v)
    | [] => none
  match longFlags.lookup name, name, value with
  | some f, _, _ => .option f value
  | none, "help", none => .help
  | none, "version", none => .version
  | none, "help", some _ | none, "version", some _ => .unneededValue
  | none, _, _ => .unknown

/-- A short option, with its value behind it if there is one. -/
def shortArgument : List Char → Argument
  | 'c' :: [] => .option .config none
  | 'c' :: '=' :: v => .option .config (some (String.ofList v))
  | 'c' :: v => .option .config (some (String.ofList v))
  | 'h' :: _ => .help
  | 'V' :: _ => .version
  | _ => .unknown

def argumentOf (s : String) : Argument :=
  match s.toList with
  | ['-', '-'] => .separator
  | '-' :: '-' :: body => longArgument body
  | ['-'] => .plain s
  | '-' :: body => shortArgument body
  | _ => .plain s

/-! ## Command lines -/

/-- The option that was read last, with its value as far as it has been read. -/
abbrev Pending := Option (Flag × Option String)

/-- Gives the option that was read last its value. -/
def settle (c : CommandLine) : Pending → Except CommandLineError CommandLine
  | none => .ok c
  | some (_, none) => .error .missingValue
  | some (f, some v) => c.set f v

/-- Reads arguments in order. -/
def read (c : CommandLine) (pending : Pending) :
    List String → Except CommandLineError CommandLine
  | [] => c.settle pending
  | s :: rest =>
    match argumentOf s with
    | .separator => if rest.isEmpty then c.settle pending else .error .unknown
    | .option f value =>
      match c.settle pending, value with
      | .error e, _ => .error e
      | .ok c, none => read c (some (f, none)) rest
      | .ok c, some v =>
        match c.set f v with
        | .error e => .error e
        | .ok c => read c none rest
    | .help => (c.settle pending).bind fun _ => .error .help
    | .version => (c.settle pending).bind fun _ => .error .version
    | .unneededValue => .error .unneededValue
    | .unknown => .error .unknown
    | .plain v =>
      match pending with
      | some (f, none) => read c (some (f, some v)) rest
      | _ => .error .unknown

/-- Takes a missing option from a variable. -/
def fill (vars : List (String × String)) (c : CommandLine) (entry : Flag × String) :
    Except CommandLineError CommandLine :=
  match c.has entry.1, vars.lookup entry.2 with
  | false, some v => c.set entry.1 v
  | _, _ => .ok c

/-- The variables that stand in for options. -/
def variableNames : List (Flag × String) := [(.host, "STRATUS_HOST"), (.tcpPort, "STRATUS_PORT")]

/-- The command line of a list of arguments, with the variables of the environment. -/
def ofArguments (arguments : List String) (vars : List (String × String)) :
    Except CommandLineError CommandLine :=
  match read {} none arguments with
  | .error e => .error e
  | .ok c => variableNames.foldlM (fill vars) c

end CommandLine

end FunctionWorker
