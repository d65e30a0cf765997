/-
The environment that functions see: variables and a directory, replaced as a whole when the host
asks for it. A request with a variable of empty name is refused and changes nothing.
-/
import FunctionWorker.Context.Cell

namespace FunctionWorker

structure Environment where
  vars : List (String × String) := []
  directory : Option String := none
deriving DecidableEq, Inhabited, Repr

namespace Environment

def get (e : Environment) (name : String) : Option String := e.vars.lookup name

def size (e : Environment) : Nat := e.vars.length

/-- Variables by name, of which the last of each name counts. -/
def ofVariables (vars : List (String × String)) : List (String × String) :=
  vars.foldl (fun acc v => Entries.put v.1 v.2 acc) []

/-- Replaces the variables, and the directory if one is given; the error is the reason for a
refusal. -/
def reload (e : Environment) (vars : List (String × String)) (directory : Option String) :
    Except String Environment :=
  match vars.find? (·.1 == "") with
  | some v => .error s!"variable with empty name (value length {v.2.utf8ByteSize})"
  | none => .ok ⟨ofVariables vars, directory.or e.directory⟩

end Environment

end FunctionWorker
