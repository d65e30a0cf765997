/-
Functions as they are loaded: an identity, parameters, bindings, the names of the outputs, and the
code by its number.
-/
import FunctionWorker.Function.Parameter
import FunctionWorker.Text.Quoted
import FunctionWorker.Wire.Envelope

namespace FunctionWorker

/-- The code of functions by number. -/
abbrev HandlerId := Nat

structure Definition where
  id : String
  name : String
  entryPoint : String
  parameters : List Parameter := []
  bindings : List (String × BindingInfo) := []
  /-- The names of the outputs as they are declared. -/
  outputs : List String := []
  retry : Option RetryPolicy := none
  handler : HandlerId
deriving Inhabited

namespace Definition

/-- The declared spelling of an output, whatever the case of the name. -/
def outputName (d : Definition) (name : String) : Option String :=
  d.outputs.find? (Text.sameName · name)

def declaresOutput (d : Definition) (name : String) : Bool := (d.outputName name).isSome

def hasReturnValue (d : Definition) : Bool := d.declaresOutput returnBinding

/-- The description of a definition. -/
def describe (d : Definition) : String :=
  Text.record "FunctionDefinition"
    [("id", Text.quoted d.id), ("name", Text.quoted d.name),
      ("entry_point", Text.quoted d.entryPoint),
      ("parameters", Text.quotedList (d.parameters.map (·.name))),
      ("outputs", Text.quotedList d.outputs)] true

end Definition

end FunctionWorker
