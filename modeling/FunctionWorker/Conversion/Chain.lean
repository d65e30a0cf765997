/-
Chains of converters. A parameter gets the value of the first converter in order that succeeds. If
none does, the first failure on the way is reported, or that there was nothing to convert.
-/
import FunctionWorker.Conversion.Builtin

namespace FunctionWorker

/-- A value with the name of the converter that made it. -/
structure Converted where
  value : Datum
  converter : String
deriving Inhabited

structure ConverterChain where
  converters : List Converter := []

namespace ConverterChain

def standard : ConverterChain := ⟨Builtin.converters⟩

def push (c : ConverterChain) (x : Converter) : ConverterChain := ⟨c.converters ++ [x]⟩

/-- A list with an element put in before the first that has a property. -/
def before {α : Type} (p : α → Bool) (x : α) : List α → Option (List α)
  | [] => none
  | y :: ys => if p y then some (x :: y :: ys) else (before p x ys).map (y :: ·)

/-- Puts in a converter before the first of the given name. -/
def insertBefore (c : ConverterChain) (anchor : String) (x : Converter) :
    Except ConversionError ConverterChain :=
  match before (·.name == anchor) x c.converters with
  | some xs => .ok ⟨xs⟩
  | none => .error (.unknownConverter anchor)

def names (c : ConverterChain) : List String := c.converters.map (·.name)

/-- The error of a request that no converter answered with a value. -/
def exhausted (r : BindingRequest) (failure : Option String) : ConversionError :=
  match r.source with
  | some v => .noConverter r.parameter.name r.parameter.type.name v.kind failure
  | none => .missing r.parameter.name r.parameter.type.name

/-- Asks converters in order; `failure` is the first failure so far. -/
def convertWith (r : BindingRequest) :
    Option String → List Converter → Job (Except ConversionError Converted)
  | failure, [] => return .error (exhausted r failure)
  | failure, x :: xs => do
    match ← Code.job (x.convert r) with
    | .succeeded value => return .ok ⟨value, x.name⟩
    | .failed reason => convertWith r (failure.or (some (x.name ++ ": " ++ reason))) xs
    | .unhandled => convertWith r failure xs

def convert (c : ConverterChain) (r : BindingRequest) : Job (Except ConversionError Converted) :=
  convertWith r none c.converters

/-- The description of a chain. -/
def describe (c : ConverterChain) : String :=
  Text.record "ConverterChain" [("converters", Text.quotedList c.names)] false

end ConverterChain

end FunctionWorker
