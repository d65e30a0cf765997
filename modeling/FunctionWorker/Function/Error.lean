/-
Errors of function code: a type name and a message, and whether the error says that the function
stopped because it was cancelled. A panic leaves code without a result; its payload is a text or
something that is none.
-/

namespace FunctionWorker

structure FunctionError where
  typeName : String
  message : String
  isCancelled : Bool := false
deriving DecidableEq, Inhabited, Repr

namespace FunctionError

/-- An error of no type of its own. -/
def plain (message : String) : FunctionError := ⟨"FunctionError", message, false⟩

/-- A function's notice that it stopped because it was cancelled. -/
def cancelled : FunctionError := ⟨"Cancelled", "invocation cancelled", true⟩

/-- The text of an error. -/
def text (e : FunctionError) : String := e.typeName ++ ": " ++ e.message

/-- What stands behind the last `::` of the characters read on, or else `found`. -/
def lastSegment : List Char → List Char → List Char
  | _, ':' :: ':' :: rest => lastSegment rest rest
  | found, _ :: rest => lastSegment found rest
  | found, [] => found

/-- The name of a type without its path: what stands in front of the first `<` loses everything up
to its last `::`, the rest is kept. -/
def shortName (full : String) : String :=
  let base := full.toList.takeWhile (· ≠ '<')
  String.ofList (lastSegment base base ++ full.toList.dropWhile (· ≠ '<'))

/-- An error of some type with its message. -/
def ofError (typeName message : String) : FunctionError := ⟨shortName typeName, message, false⟩

end FunctionError

/-- What a panic carries. -/
inductive Panic where
  | text (message : String)
  | other
deriving DecidableEq, Inhabited, Repr

def Panic.message : Panic → String
  | .text m => m
  | .other => "unknown panic payload"

end FunctionWorker
