/-
The functions that are loaded. A definition is put in under its id once and is never replaced.
-/
import FunctionWorker.Function.Definition

namespace FunctionWorker

structure FunctionTable where
  definitions : List Definition := []

namespace FunctionTable

def find? (t : FunctionTable) (id : String) : Option Definition :=
  t.definitions.find? (·.id == id)

/-- Puts in a definition; `none` if its id is taken. -/
def insert (t : FunctionTable) (d : Definition) : Option FunctionTable :=
  if (t.find? d.id).isSome then none else some ⟨t.definitions ++ [d]⟩

def size (t : FunctionTable) : Nat := t.definitions.length

end FunctionTable

end FunctionWorker
