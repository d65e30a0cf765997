/-
The life of an invocation's context: it is created, executes, and ends with its result set or
faulted; whatever its state, it can be disposed of, once.
-/

namespace FunctionWorker

inductive ContextState where
  | created
  | executing
  | resultSet
  | faulted
  | disposed
deriving DecidableEq, Inhabited, Repr

namespace ContextState

def all : List ContextState := [.created, .executing, .resultSet, .faulted, .disposed]

/-- The name of a state in error texts. -/
def name : ContextState → String
  | .created => "created"
  | .executing => "executing"
  | .resultSet => "result_set"
  | .faulted => "faulted"
  | .disposed => "disposed"

/-- The name of a state in descriptions. -/
def title : ContextState → String
  | .created => "Created"
  | .executing => "Executing"
  | .resultSet => "ResultSet"
  | .faulted => "Faulted"
  | .disposed => "Disposed"

end ContextState

inductive ContextError where
  | notExecuting (state : ContextState)
  | undeclaredOutput (name : String)
  | disposed
  | invalidTransition (source target : ContextState)
deriving DecidableEq, Inhabited, Repr

def ContextError.message : ContextError → String
  | .notExecuting s => s!"context is not executing (state: {s.name})"
  | .undeclaredOutput n => "output '" ++ n ++ "' is not declared by this function"
  | .disposed => "context has been disposed"
  | .invalidTransition s t => s!"invalid context transition from {s.name} to {t.name}"

end FunctionWorker
