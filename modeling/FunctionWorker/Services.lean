/-
Services by type. A singleton is one instance for all; a scoped service is made by its factory once
for each scope, when it is first asked for, until the scope is disposed of. A factory that panics
leaves nothing behind: it runs again when its service is asked for again.
-/
import FunctionWorker.Context.Cell
import FunctionWorker.Function.Error

namespace FunctionWorker

/-- An instance of a service; instances are the same if their serial numbers are. -/
structure ServiceInstance where
  serial : Nat
  value : Datum
deriving Inhabited

/-- How services come about, by the names of their types. A factory is told how often it ran, and
may panic. -/
structure ServiceRegistrations where
  singletons : List (String × Datum) := []
  factories : List (String × (Nat → Except Panic Datum)) := []

namespace ServiceRegistrations

/-- Registers the one instance of a type; an earlier one is replaced. -/
def addSingleton (r : ServiceRegistrations) (type : String) (value : Datum) :
    ServiceRegistrations :=
  { r with singletons := Entries.put type value r.singletons }

/-- Registers the factory of a type; an earlier one is replaced. -/
def addScoped (r : ServiceRegistrations) (type : String) (make : Nat → Except Panic Datum) :
    ServiceRegistrations :=
  { r with factories := Entries.put type make r.factories }

/-- The description of a set of registrations. -/
def describe (r : ServiceRegistrations) : String :=
  Text.record "ServiceProvider"
    [("singletons", toString r.singletons.length), ("scoped", toString r.factories.length)] false

/-- The singleton of a type; its serial number is its place. -/
def singleton? (r : ServiceRegistrations) (type : String) : Option ServiceInstance :=
  match r.singletons.findIdx? (·.1 == type) with
  | some i => (r.singletons[i]?).map fun e => ⟨i, e.2⟩
  | none => none

end ServiceRegistrations

structure ServiceScope where
  instances : List (String × ServiceInstance) := []
  /-- How often the scope was disposed of. -/
  disposals : Nat := 0
deriving Inhabited

structure Services where
  registrations : ServiceRegistrations := {}
  scopes : List ServiceScope := []
  /-- The types whose factories have run, latest first; a run that panicked counts. -/
  runs : List String := []

namespace Services

/-- Opens a scope. -/
def openScope (s : Services) : ScopeId × Services :=
  (s.scopes.length, { s with scopes := s.scopes ++ [{}] })

/-- The instance of a type in a scope. A factory that panics has run, and nothing is kept of it. -/
def resolve (s : Services) (scope : ScopeId) (type : String) :
    Except Panic (Option ServiceInstance) × Services :=
  match s.registrations.singleton? type with
  | some i => (.ok (some i), s)
  | none =>
    match s.scopes[scope]?, s.registrations.factories.lookup type with
    | some sc, some make =>
      if sc.disposals ≠ 0 then (.ok none, s)
      else
        match sc.instances.lookup type with
        | some i => (.ok (some i), s)
        | none =>
          let ran : Services := { s with runs := type :: s.runs }
          match make (s.runs.count type) with
          | .error p => (.error p, ran)
          | .ok value =>
            let i : ServiceInstance := ⟨s.registrations.singletons.length + s.runs.length, value⟩
            (.ok (some i),
              { ran with
                scopes := s.scopes.set scope { sc with instances := sc.instances ++ [(type, i)] } })
    | _, _ => (.ok none, s)

/-- Disposes of a scope, which lets its instances go. -/
def dispose (s : Services) (scope : ScopeId) : Services :=
  match s.scopes[scope]? with
  | some sc => { s with scopes := s.scopes.set scope ⟨[], sc.disposals + 1⟩ }
  | none => s

/-- How many scopes have been disposed of. -/
def disposed (s : Services) : Nat := (s.scopes.filter (·.disposals ≠ 0)).length

end Services

end FunctionWorker
