/-
Why an invocation fails, and what the host is told about it. Errors of function code are shown as
the code raised them, if that is enabled.
-/
import FunctionWorker.Conversion.Basic

namespace FunctionWorker

/-- The source of exceptions that the worker itself raises. -/
def workerSource : String := "stratus-worker"

inductive InvocationError where
  | functionNotFound (id : String)
  | conversion (e : ConversionError)
  | user (e : FunctionError)
  | cancelled
  | context (e : ContextError)
  | panicked (message : String)
deriving DecidableEq, Inhabited, Repr

namespace InvocationError

def typeName : InvocationError → String
  | .functionNotFound _ => "function_not_found"
  | .conversion _ => "conversion_error"
  | .user _ => "user_code_error"
  | .cancelled => "cancelled"
  | .context _ => "context_error"
  | .panicked _ => "panic"

def message : InvocationError → String
  | .functionNotFound id => "function not found: " ++ id
  | .conversion e => e.message
  | .user e => e.text
  | .cancelled => "invocation cancelled"
  | .context e => e.message
  | .panicked m => "function panicked: " ++ m

def isCancellation (e : InvocationError) : Bool := e == .cancelled

/-- Whether function code is to blame. -/
def isUserFault : InvocationError → Bool
  | .user _ | .panicked _ => true
  | _ => false

/-- The exception for the host; `shown` says whether errors of function code are shown. -/
def exception (shown : Bool) (e : InvocationError) : ExceptionRecord :=
  match e with
  | .user u =>
    if shown then { typeName := u.typeName, message := u.message, isUser := true }
    else { typeName := e.typeName, message := u.text }
  | .panicked m =>
    if shown then { typeName := e.typeName, message := m, isUser := true }
    else { typeName := e.typeName, message := e.message, source := workerSource }
  | _ => { typeName := e.typeName, message := e.message, source := workerSource }

/-- The error of function code as the error of its invocation. -/
def ofFunction (e : FunctionError) : InvocationError :=
  if e.isCancelled then .cancelled else .user e

end InvocationError

end FunctionWorker
