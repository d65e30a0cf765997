/-
The arguments of a call. Each is delivered once, to the first that asks for it as its own type; a
request that fails leaves the argument where it is.
-/
import FunctionWorker.Function.Datum
import FunctionWorker.Function.Error
import FunctionWorker.Text.Ascii
import FunctionWorker.Text.Quoted

namespace FunctionWorker

structure Arguments where
  names : List String
  /-- The arguments in order; one that has been delivered leaves its slot empty. -/
  slots : List (Option Datum)
deriving Inhabited

namespace Arguments

def ofList (bound : List (String × Datum)) : Arguments :=
  ⟨bound.map (·.1), bound.map fun b => some b.2⟩

def size (a : Arguments) : Nat := a.slots.length

def refusal (message : String) : FunctionError := ⟨"ArgumentError", message, false⟩

/-- Takes the argument at an index as a value of the named type. -/
def take (a : Arguments) (index : Nat) (typeName : String) :
    Except FunctionError Datum × Arguments :=
  match a.slots[index]? with
  | none => (.error (refusal s!"no argument at index {index}"), a)
  | some none => (.error (refusal s!"argument {index} already taken"), a)
  | some (some d) =>
    if d.typeName = typeName then (.ok d, { a with slots := a.slots.set index none })
    else (.error (refusal s!"argument {index} is not a {typeName}"), a)

/-- Takes the argument of the first parameter of a name, whatever its case. -/
def takeNamed (a : Arguments) (name typeName : String) :
    Except FunctionError Datum × Arguments :=
  match a.names.findIdx? (Text.sameName · name) with
  | none => (.error (refusal ("no argument named '" ++ name ++ "'")), a)
  | some index => a.take index typeName

/-- The description of a call's arguments. -/
def describe (a : Arguments) : String :=
  Text.record "Arguments" [("names", Text.quotedList a.names)] true

end Arguments

end FunctionWorker
