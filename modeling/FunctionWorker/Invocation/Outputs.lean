/-
The outputs of an invocation on their way to the host. Each value is written by the first
serializer that takes it, or else by the rule of its type. Outputs are collected in the order of
their declaration and under their declared names; the output `$return` becomes the value that the
function returns.
-/
import FunctionWorker.Function.Definition
import FunctionWorker.Function.Error

namespace FunctionWorker

/-- A rule for writing values, which may leave a value to others, and may panic. -/
structure Serializer where
  name : String
  serialize : OutputValue → Except Panic (Option WireValue)

structure SerializedOutputs where
  outputs : List NamedValue := []
  returned : Option WireValue := none
deriving DecidableEq, Inhabited, Repr

namespace Serializer

/-- Writes a value. -/
def apply : List Serializer → OutputValue → Except Panic WireValue
  | [], v => .ok v.toWire
  | s :: rest, v =>
    match s.serialize v with
    | .error p => .error p
    | .ok (some w) => .ok w
    | .ok none => apply rest v

/-- The description of a list of serializers. -/
def describe (serializers : List Serializer) : String :=
  Text.record "OutputBindingRegistry"
    [("serializers", Text.quotedList (serializers.map (·.name)))] false

end Serializer

namespace SerializedOutputs

/-- Adds a value under a declared name. -/
def add (s : SerializedOutputs) (name : String) (w : WireValue) : SerializedOutputs :=
  if Text.sameName name returnBinding then { s with returned := some w }
  else { s with outputs := s.outputs ++ [⟨name, w⟩] }

/-- Takes the first value under a name out of a list; the last one moves into its place. -/
def takeFirst (name : String) (produced : List (String × OutputValue)) :
    Option (OutputValue × List (String × OutputValue)) :=
  match produced.findIdx? (Text.sameName ·.1 name) with
  | none => none
  | some i =>
    match produced[i]?, produced.getLast? with
    | some (_, v), some last => some (v, (produced.set i last).dropLast)
    | _, _ => none

/-- Collects the values that were produced, for the declared names in order. -/
def collectInto (serializers : List Serializer) :
    SerializedOutputs → List String → List (String × OutputValue) →
      Except Panic SerializedOutputs
  | s, [], _ => .ok s
  | s, name :: names, produced =>
    match takeFirst name produced with
    | none => collectInto serializers s names produced
    | some (v, produced) =>
      match Serializer.apply serializers v with
      | .error p => .error p
      | .ok w => collectInto serializers (s.add name w) names produced

def collect (serializers : List Serializer) (declared : List String)
    (produced : List (String × OutputValue)) : Except Panic SerializedOutputs :=
  collectInto serializers {} declared produced

end SerializedOutputs

end FunctionWorker
