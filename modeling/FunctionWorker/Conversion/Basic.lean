/-
The conversion of wire values into arguments: what a converter is asked, what it answers, and why
a parameter cannot be bound.
-/
import FunctionWorker.Invocation.Call

namespace FunctionWorker

/-- The request to bind a parameter: where its value comes from, if there is such a place, and the
invocation it is bound for. -/
structure BindingRequest where
  parameter : Parameter
  source : Option WireValue
  context : ContextId
  token : TokenId

/-- The description of a request. -/
def BindingRequest.describe (r : BindingRequest) : String :=
  let source :=
    match r.source with
    | some v => "Some(" ++ Text.quoted v.kind ++ ")"
    | none => "None"
  Text.record "ConverterContext"
    [("parameter", Text.quoted r.parameter.name), ("source", source)] true

/-- What a converter makes of a request. -/
inductive Conversion where
  | unhandled
  | succeeded (value : Datum)
  | failed (reason : String)
deriving Inhabited

/-- The description of an answer. -/
def Conversion.describe : Conversion → String
  | .unhandled => "Unhandled"
  | .succeeded _ => "Succeeded(..)"
  | .failed reason => "Failed(" ++ Text.quoted reason ++ ")"

inductive ConversionError where
  | noConverter (parameter targetType wireKind : String) (cause : Option String)
  | missing (parameter targetType : String)
  | unknownConverter (name : String)
deriving DecidableEq, Inhabited, Repr

def ConversionError.message : ConversionError → String
  | .noConverter p t k cause =>
    let suffix :=
      match cause with
      | some c => " (" ++ c ++ ")"
      | none => ""
    "cannot bind parameter '" ++ p ++ "': no converter from " ++ k ++ " to " ++ t ++ suffix
  | .missing p t => "cannot bind parameter '" ++ p ++ "': no input supplied for " ++ t
  | .unknownConverter n => "no converter named '" ++ n ++ "'"

structure Converter where
  name : String
  convert : BindingRequest → Code Conversion

/-- A converter that makes no calls. -/
def Converter.ofFunction (name : String) (f : BindingRequest → Conversion) : Converter :=
  ⟨name, fun r => .done (f r)⟩

end FunctionWorker
