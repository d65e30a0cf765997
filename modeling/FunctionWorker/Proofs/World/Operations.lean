/-
What an operation does to each part of the world. Most parts are left alone by most operations.
-/
import FunctionWorker.World

namespace FunctionWorker

namespace Op

def contextsAfter (w : World) : Op → List Context
  | .newContext facts => w.contexts ++ [{ facts }]
  | .onContext c s => w.contexts.set c (s.perform (w.context c)).2
  | .scopeOf c =>
    if (w.context c).scope = none then
      w.contexts.set c { w.context c with scope := some w.services.scopes.length }
    else w.contexts
  | _ => w.contexts

def cancellationsAfter (w : World) : Op → CancellationRegistry
  | .drawToken => w.cancellations.draw.2
  | .insertRegistration r => w.cancellations.insert r
  | .removeRegistration r => w.cancellations.remove r
  | .tryCancel id => (w.cancellations.tryCancel id).2
  | .signal t => w.cancellations.signal t
  | _ => w.cancellations

def servicesAfter (w : World) : Op → Services
  | .scopeOf c => if (w.context c).scope = none then w.services.openScope.2 else w.services
  | .resolve scope type => (w.services.resolve scope type).2
  | .disposeScope scope => w.services.dispose scope
  | _ => w.services

def functionsAfter (w : World) : Op → FunctionTable
  | .insertFunction d => (w.functions.insert d).getD w.functions
  | _ => w.functions

end Op

/-- An operation changes these four parts of the world as said above, whatever else it does. -/
theorem perform_parts (op : Op) (w : World) :
    (World.perform op w).2.contexts = op.contextsAfter w ∧
    (World.perform op w).2.cancellations = op.cancellationsAfter w ∧
    (World.perform op w).2.services = op.servicesAfter w ∧
    (World.perform op w).2.functions = op.functionsAfter w := by
  cases op with
  | scopeOf c =>
    simp only [World.perform, Op.contextsAfter, Op.servicesAfter]
    cases (w.context c).scope with
    | none => exact ⟨(if_pos rfl).symm, rfl, (if_pos rfl).symm, rfl⟩
    | some s => exact ⟨(if_neg nofun).symm, rfl, (if_neg nofun).symm, rfl⟩
  | insertFunction d =>
    simp only [World.perform, Op.functionsAfter]
    cases w.functions.insert d <;> exact ⟨rfl, rfl, rfl, rfl⟩
  | reload vars directory =>
    simp only [World.perform]
    split <;> exact ⟨rfl, rfl, rfl, rfl⟩
  | initialise =>
    simp only [World.perform]
    split <;> exact ⟨rfl, rfl, rfl, rfl⟩
  | _ => exact ⟨rfl, rfl, rfl, rfl⟩

theorem contexts_perform (op : Op) (w : World) : (World.perform op w).2.contexts = op.contextsAfter w :=
  (perform_parts op w).1

theorem cancellations_perform (op : Op) (w : World) :
    (World.perform op w).2.cancellations = op.cancellationsAfter w := (perform_parts op w).2.1

theorem services_perform (op : Op) (w : World) : (World.perform op w).2.services = op.servicesAfter w :=
  (perform_parts op w).2.2.1

theorem functions_perform (op : Op) (w : World) : (World.perform op w).2.functions = op.functionsAfter w :=
  (perform_parts op w).2.2.2

end FunctionWorker
