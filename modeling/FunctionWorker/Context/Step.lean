/-
The atomic steps on a context as operations.
-/
import FunctionWorker.Context.Cell

namespace FunctionWorker

inductive ContextStep where
  | facts
  | state
  | describe
  | begin
  | complete
  | fault
  | markDisposed
  | checkExecuting
  | putItem (key : String) (value : Datum)
  | item (key typeName : String)
  | clearItems
  | putOutput (name : String) (value : OutputValue)
  | hasOutput (name : String)
  | takeOutputs
  | putResult (r : HandlerResult)
  | takeResult
  | addAttribute (name value : String)
  | attributes
  | takeScope

namespace ContextStep

def Reply : ContextStep → Type
  | .facts => ContextFacts
  | .state => ContextState
  | .describe => String
  | .begin | .complete | .fault | .checkExecuting => Except ContextError Unit
  | .markDisposed => Bool
  | .putItem _ _ | .clearItems | .putOutput _ _ | .putResult _ | .addAttribute _ _ => Unit
  | .item _ _ => Option Datum
  | .hasOutput _ => Bool
  | .takeOutputs => List (String × OutputValue)
  | .takeResult => Option HandlerResult
  | .attributes => List (String × String)
  | .takeScope => Option ScopeId

def perform : (s : ContextStep) → Context → s.Reply × Context
  | .facts, c => (c.facts, c)
  | .state, c => (c.state, c)
  | .describe, c => (c.describe, c)
  | .begin, c => c.begin
  | .complete, c => c.complete
  | .fault, c => c.fault
  | .markDisposed, c => c.markDisposed
  | .checkExecuting, c => (c.checkExecuting, c)
  | .putItem k v, c => ((), c.putItem k v)
  | .item k t, c => (c.item k t, c)
  | .clearItems, c => ((), c.clearItems)
  | .putOutput n v, c => ((), c.putOutput n v)
  | .hasOutput n, c => (c.hasOutput n, c)
  | .takeOutputs, c => c.takeOutputs
  | .putResult r, c => ((), c.putResult r)
  | .takeResult, c => c.takeResult
  | .addAttribute n v, c => ((), c.addAttribute n v)
  | .attributes, c => (c.attributes, c)
  | .takeScope, c => c.takeScope

end ContextStep

end FunctionWorker
