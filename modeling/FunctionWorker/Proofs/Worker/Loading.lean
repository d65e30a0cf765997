/-
What a worker tells of an entry can be loaded. An entry that comes from the calls of the builder brings an
output binding for each of its output parameters, so it can be instantiated with its own bindings; and where
entry points are not shared, the metadata of an entry lead back to it, whatever other entries are called.
-/
import FunctionWorker.Worker.Catalog
import Mathlib.Tactic

namespace FunctionWorker

namespace CatalogEntry

/-! ## Instantiation -/

/-- Every output parameter has an output of its name among some bindings. -/
def Supplied (e : CatalogEntry) (bindings : List (String × BindingInfo)) : Prop :=
  ∀ p ∈ e.parameters, p.role = .output → declaresOutput bindings p.name = true

/-- The names of the outputs among bindings. -/
def outputNames (bindings : List (String × BindingInfo)) : List String :=
  (bindings.filter (·.2.direction.isOutput)).map (·.1)

/-- The definition that a load request makes of an entry whose outputs are supplied. -/
def definition (e : CatalogEntry) (r : LoadRequest) : Definition where
  id := r.functionId
  name := if r.metadata.name = "" then e.name else r.metadata.name
  entryPoint := e.entryPoint
  parameters := e.parameters
  bindings := e.effectiveBindings r.metadata
  outputs := outputNames (e.effectiveBindings r.metadata)
  retry := r.metadata.retry.or e.retry
  handler := e.handler

theorem instantiate_cases (e : CatalogEntry) (r : LoadRequest) :
    (e.Supplied (e.effectiveBindings r.metadata) ∧ e.instantiate r = .ok (e.definition r)) ∨
    ∃ p ∈ e.parameters, p.role = .output ∧ declaresOutput (e.effectiveBindings r.metadata) p.name = false ∧
      e.instantiate r = .error (.undeclaredOutput e.name p.name) := by
  unfold instantiate
  dsimp only
  cases hfind : e.parameters.find? fun p =>
      p.role = .output && !declaresOutput (e.effectiveBindings r.metadata) p.name with
  | none =>
    refine .inl ⟨fun p hp hrole => ?_, rfl⟩
    simpa [hrole] using List.find?_eq_none.1 hfind p hp
  | some p =>
    have hp := List.find?_some hfind
    simp only [Bool.and_eq_true, decide_eq_true_eq, Bool.not_eq_true'] at hp
    exact .inr ⟨p, List.mem_of_find?_eq_some hfind, hp.1, hp.2, rfl⟩

theorem instantiate_of_supplied {e : CatalogEntry} {r : LoadRequest}
    (h : e.Supplied (e.effectiveBindings r.metadata)) : e.instantiate r = .ok (e.definition r) := by
  rcases e.instantiate_cases r with ⟨-, heq⟩ | ⟨p, hp, hrole, hlacks, -⟩
  · exact heq
  · rw [h p hp hrole] at hlacks
    cases hlacks

/-! ## Entries that are built -/

/-- Entries that come from the calls of the builder. -/
inductive Built : CatalogEntry → Prop
  | ofHandler (name : String) (handler : HandlerId) : Built (ofHandler name handler)
  | withEntryPoint {e : CatalogEntry} (h : Built e) (entryPoint : String) : Built (e.withEntryPoint entryPoint)
  | withRetry {e : CatalogEntry} (h : Built e) (retry : RetryPolicy) : Built (e.withRetry retry)
  | trigger {e : CatalogEntry} (h : Built e) (name : String) (type : ParameterType) (binding : String) :
    Built (e.trigger name type binding)
  | input {e : CatalogEntry} (h : Built e) (name : String) (type : ParameterType) (binding : String) :
    Built (e.input name type binding)
  | output {e : CatalogEntry} (h : Built e) (name element binding : String) : Built (e.output name element binding)
  | outputBinding {e : CatalogEntry} (h : Built e) (name binding : String) : Built (e.outputBinding name binding)
  | returns {e : CatalogEntry} (h : Built e) (binding : String) : Built (e.returns binding)
  | context {e : CatalogEntry} (h : Built e) (name : String) (type : ParameterType) : Built (e.context name type)

variable {e : CatalogEntry} {bindings more : List (String × BindingInfo)}

theorem declaresOutput_append (bindings more : List (String × BindingInfo)) (name : String) :
    declaresOutput (bindings ++ more) name = (declaresOutput bindings name || declaresOutput more name) :=
  List.any_append

/-- More bindings supply no less. -/
theorem Supplied.append (h : e.Supplied bindings) (more : List (String × BindingInfo)) :
    e.Supplied (bindings ++ more) := by
  intro p hp hrole
  rw [declaresOutput_append, h p hp hrole, Bool.true_or]

/-- An output parameter that comes with an output binding is supplied by it, and any other parameter needs
nothing. -/
theorem Supplied.parameter (h : e.Supplied e.bindings) {p : Parameter} {b : BindingInfo}
    (hp : p.role = .output → b.direction.isOutput = true) :
    (e.parameter p b).Supplied (e.parameter p b).bindings := by
  intro q hq hrole
  rcases List.mem_append.1 hq with hq | hq
  · exact h.append [(p.name, b)] q hq hrole
  · obtain rfl := List.mem_singleton.1 hq
    have hown : declaresOutput [(q.name, b)] q.name = true := by
      simp [declaresOutput, Text.sameName_refl, hp hrole]
    show declaresOutput (e.bindings ++ [(q.name, b)]) q.name = true
    rw [declaresOutput_append, hown, Bool.or_true]

/-- An entry that was built supplies its own outputs. -/
theorem Built.supplied (h : e.Built) : e.Supplied e.bindings := by
  induction h with
  | ofHandler name handler => exact fun p hp => absurd hp List.not_mem_nil
  | withEntryPoint _ _ ih | withRetry _ _ ih => exact ih
  | trigger _ name type binding ih | input _ name type binding ih => exact ih.parameter nofun
  | output _ name element binding ih => exact ih.parameter fun _ => rfl
  | outputBinding _ name binding ih | returns _ binding ih => exact ih.append _
  | context _ name type ih =>
    intro p hp hrole
    rcases List.mem_append.1 hp with hp | hp
    · exact ih p hp hrole
    · obtain rfl := List.mem_singleton.1 hp
      cases hrole

/-- An entry's own metadata leave its bindings in effect. -/
theorem effectiveBindings_toMetadata (e : CatalogEntry) (functionId directory : String) :
    e.effectiveBindings (e.toMetadata functionId directory) = e.bindings := by
  show (if e.bindings.isEmpty then e.bindings else e.bindings) = e.bindings
  exact ite_self _

end CatalogEntry

/-! ## Resolution -/

namespace Catalog

/-- Where no two entries share an entry point, one that is not empty leads to its entry. -/
theorem resolve_of_entryPoint {c : Catalog} (hdistinct : (c.entries.map (·.entryPoint)).Nodup) {e : CatalogEntry}
    (he : e ∈ c.entries) {m : FunctionMetadata} (hpoint : m.entryPoint = e.entryPoint) (hnonempty : e.entryPoint ≠ "") :
    c.resolve m = some e := by
  have hfind : (c.entries.find? fun x => m.entryPoint != "" && x.entryPoint == m.entryPoint) = some e := by
    cases hfound : c.entries.find? fun x => m.entryPoint != "" && x.entryPoint == m.entryPoint with
    | none =>
      have hnone := List.find?_eq_none.1 hfound e he
      simp [hpoint, hnonempty] at hnone
    | some x =>
      have hx := List.find?_some hfound
      simp only [Bool.and_eq_true, beq_iff_eq] at hx
      exact congrArg some
        (List.inj_on_of_nodup_map hdistinct (List.mem_of_find?_eq_some hfound) he (hx.2.trans hpoint))
  rw [resolve, hfind, Option.some_or]

/-- Whatever entries are built, if each has an entry point of its own, then each can be loaded by the metadata
that the worker tells of it, under any identity, and is loaded as it was built. -/
theorem instantiate_advertised {c : Catalog} (hbuilt : ∀ e ∈ c.entries, e.Built)
    (hnonempty : ∀ e ∈ c.entries, e.entryPoint ≠ "") (hdistinct : (c.entries.map (·.entryPoint)).Nodup)
    {e : CatalogEntry} (he : e ∈ c.entries) (id functionId directory : String) :
    c.instantiate ⟨id, e.toMetadata functionId directory⟩ = .ok
      { id
        name := e.name
        entryPoint := e.entryPoint
        parameters := e.parameters
        bindings := e.bindings
        outputs := (e.bindings.filter (·.2.direction.isOutput)).map (·.1)
        retry := e.retry
        handler := e.handler } := by
  have hresolve : c.resolve (e.toMetadata functionId directory) = some e :=
    resolve_of_entryPoint hdistinct he rfl (hnonempty e he)
  have hbindings := e.effectiveBindings_toMetadata functionId directory
  have hsupplied : e.Supplied (e.effectiveBindings (e.toMetadata functionId directory)) := by
    rw [hbindings]
    exact (hbuilt e he).supplied
  have hname : (if (e.toMetadata functionId directory).name = "" then e.name
      else (e.toMetadata functionId directory).name) = e.name := ite_self _
  have hretry : (e.toMetadata functionId directory).retry.or e.retry = e.retry := Option.or_self
  rw [instantiate, hresolve]
  show e.instantiate ⟨id, e.toMetadata functionId directory⟩ = _
  rw [CatalogEntry.instantiate_of_supplied hsupplied]
  simp only [CatalogEntry.definition, hbindings, hname, hretry, CatalogEntry.outputNames]

/-! Two entries whose names differ in case only; the second one is loaded, though the first would be found by its
name. -/

def ledger : CatalogEntry :=
  ((((((CatalogEntry.ofHandler "Ledger" 1).withEntryPoint "app::ledger").trigger "req" .http "httpTrigger").output
    "audit" TypeName.text "queue").outputBinding "log" "blob").context "token" .cancellation).returns "http"

def twins : Catalog where
  entries := [(CatalogEntry.ofHandler "ledger" 0).input "row" .text "table", ledger.withRetry ⟨3, .fixedDelay 50⟩]

theorem instantiate_advertised_twins :
    (∀ e ∈ twins.entries, e.Built) ∧ (∀ e ∈ twins.entries, e.entryPoint ≠ "") ∧
    (twins.entries.map (·.entryPoint)).Nodup ∧ ledger.withRetry ⟨3, .fixedDelay 50⟩ ∈ twins.entries ∧
    twins.instantiate ⟨"7", (ledger.withRetry ⟨3, .fixedDelay 50⟩).toMetadata "1" "/app"⟩ = .ok
      { id := "7"
        name := "Ledger"
        entryPoint := "app::ledger"
        parameters := [⟨"req", .http, .trigger⟩, ⟨"audit", .output TypeName.text, .output⟩,
          ⟨"token", .cancellation, .context⟩]
        bindings := [("req", ⟨"httpTrigger", .input⟩), ("audit", ⟨"queue", .output⟩), ("log", ⟨"blob", .output⟩),
          ("$return", ⟨"http", .output⟩)]
        outputs := ["audit", "log", "$return"]
        retry := some ⟨3, .fixedDelay 50⟩
        handler := 1 } := by
  have hbuilt : ∀ e ∈ twins.entries, e.Built := by
    rintro e (_ | ⟨_, _ | ⟨_, h⟩⟩)
    · exact (CatalogEntry.Built.ofHandler ..).input ..
    · exact (((((((CatalogEntry.Built.ofHandler ..).withEntryPoint _).trigger _ _ _).output _ _ _).outputBinding
        _ _).context _ _).returns _).withRetry _
    · cases h
  have hnonempty : ∀ e ∈ twins.entries, e.entryPoint ≠ "" := by
    rintro e (_ | ⟨_, _ | ⟨_, h⟩⟩)
    · decide
    · decide
    · cases h
  have hdistinct : (twins.entries.map (·.entryPoint)).Nodup := by decide
  have hmem : ledger.withRetry ⟨3, .fixedDelay 50⟩ ∈ twins.entries := List.mem_cons_of_mem _ (List.mem_singleton_self _)
  exact ⟨hbuilt, hnonempty, hdistinct, hmem, instantiate_advertised hbuilt hnonempty hdistinct hmem "7" "1" "/app"⟩

end Catalog

end FunctionWorker
