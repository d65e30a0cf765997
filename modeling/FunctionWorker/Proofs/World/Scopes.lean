/-
The service scopes of a context in a world that is shared: which are opened for it, and how often
each of them is disposed of.
-/
import FunctionWorker.Proofs.World.Contexts

namespace FunctionWorker

variable {w w' : World} {c : ContextId} {es : List Event} {s : ScopeId} {n : Nat}

/-! ## Disposals -/

/-- How often a scope was disposed of, if there is such a scope. -/
def World.disposals? (w : World) (s : ScopeId) : Option Nat := (w.services.scopes[s]?).map (·.disposals)

theorem disposals_set {scopes : List ServiceScope} {scope : ScopeId} {sc new : ServiceScope}
    (hsc : scopes[scope]? = some sc) (hnew : new.disposals = sc.disposals) :
    ((scopes.set scope new)[s]?).map (·.disposals) = (scopes[s]?).map (·.disposals) := by
  rw [List.getElem?_set]
  by_cases h : scope = s
  · subst h
    rw [if_pos rfl, if_pos (List.getElem?_eq_some_iff.1 hsc).1, hsc, Option.map_some, Option.map_some, hnew]
  · rw [if_neg h]

/-- Services that are made in a scope do not count as disposals. -/
theorem disposals_resolve (services : Services) (scope : ScopeId) (type : String) (s : ScopeId) :
    (((services.resolve scope type).2.scopes[s]?).map (·.disposals)) =
      (services.scopes[s]?).map (·.disposals) := by
  unfold Services.resolve
  split
  · rfl
  · split
    · rename_i sc make hsc hmake
      split
      · rfl
      · split
        · rfl
        · dsimp only
          split
          · rfl
          · exact disposals_set hsc rfl
    · rfl

theorem disposals_open {services : Services} (h : (services.scopes[s]?).map (·.disposals) = some n) :
    ((services.openScope.2.scopes[s]?).map (·.disposals)) = some n := by
  obtain ⟨sc, hsc, -⟩ := Option.map_eq_some_iff.1 h
  show (((services.scopes ++ [({} : ServiceScope)])[s]?).map (·.disposals)) = some n
  rw [List.getElem?_append_left (List.getElem?_eq_some_iff.1 hsc).1, h]

/-- Only its own disposal counts for a scope. -/
theorem disposals_perform {op : Op} (hop : op ≠ .disposeScope s) (h : w.disposals? s = some n) :
    (World.perform op w).2.disposals? s = some n := by
  unfold World.disposals?
  rw [services_perform]
  cases op with
  | scopeOf c =>
    show (((if (w.context c).scope = none then w.services.openScope.2 else w.services).scopes[s]?).map _) = _
    split
    · exact disposals_open h
    · exact h
  | resolve scope type => exact (disposals_resolve w.services scope type s).trans h
  | disposeScope scope =>
    show ((w.services.dispose scope).scopes[s]?).map (·.disposals) = some n
    unfold Services.dispose
    split
    · have hne : scope ≠ s := fun heq => hop (by rw [heq])
      show ((w.services.scopes.set scope _)[s]?).map (·.disposals) = some n
      rw [List.getElem?_set_ne hne]
      exact h
    · exact h
  | _ => exact h

theorem disposals_dispose (h : w.disposals? s = some n) :
    (World.perform (.disposeScope s) w).2.disposals? s = some (n + 1) := by
  obtain ⟨sc, hsc, rfl⟩ := Option.map_eq_some_iff.1 h
  show ((w.services.dispose s).scopes[s]?).map (·.disposals) = some (sc.disposals + 1)
  unfold Services.dispose
  rw [hsc]
  show ((w.services.scopes.set s ⟨[], sc.disposals + 1⟩)[s]?).map (·.disposals) = some (sc.disposals + 1)
  rw [List.getElem?_set_self (List.getElem?_eq_some_iff.1 hsc).1, Option.map_some]

/-! ## Opened scopes -/

/-- The scope that an event opens for a context. -/
def Event.opens? (c : ContextId) (e : Event) : Option ScopeId :=
  match e.op with
  | .scopeOf c' =>
    if c' = c ∧ (e.before.context c).scope = none then some e.before.services.scopes.length else none
  | _ => none

/-- The scopes that events open for a context, in order. -/
def opened (c : ContextId) (es : List Event) : List ScopeId := es.filterMap (·.opens? c)

theorem opened_append (c : ContextId) (es₁ es₂ : List Event) :
    opened c (es₁ ++ es₂) = opened c es₁ ++ opened c es₂ := List.filterMap_append

theorem opened_subset {all : List Event} (h : es ⊆ all) : opened c es ⊆ opened c all := by
  intro s hs
  obtain ⟨e, he, hopens⟩ := List.mem_filterMap.1 hs
  exact List.mem_filterMap.2 ⟨e, h he, hopens⟩

theorem opened_singleton (c : ContextId) (e : Event) : opened c [e] = (e.opens? c).toList := by
  unfold opened
  cases h : e.opens? c with
  | none => rw [List.filterMap_cons_none h]; rfl
  | some s => rw [List.filterMap_cons_some h]; rfl

/-- A scope is opened by asking for the scope of a context that has none. -/
theorem Event.opens_inv {e : Event} (h : e.opens? c = some s) :
    e.op = .scopeOf c ∧ (e.before.context c).scope = none ∧ s = e.before.services.scopes.length := by
  unfold Event.opens? at h
  split at h
  · rename_i c' hop
    split at h
    · rename_i hc
      obtain ⟨rfl, hnone⟩ := hc
      cases h
      exact ⟨hop, hnone, rfl⟩
    · cases h
  · cases h

/-- A scope that is opened has not been disposed of. -/
theorem Event.disposals_opens {e : Event} (h : e.opens? c = some s) : e.after.disposals? s = some 0 := by
  obtain ⟨hop, hnone, rfl⟩ := e.opens_inv h
  unfold Event.after
  rw [hop]
  simp only [World.perform, hnone]
  show ((e.before.services.scopes ++ [({} : ServiceScope)])[e.before.services.scopes.length]?).map (·.disposals) = some 0
  rw [List.getElem?_concat_length]
  rfl

/-- The slot of a context has the scope that was opened for it, until it is taken. -/
theorem Event.scope_after (e : Event) (hc : c < e.before.contexts.length)
    (htake : e.op ≠ .onContext c .takeScope) :
    (e.after.context c).scope.toList = (e.before.context c).scope.toList ++ opened c [e] := by
  rw [e.context_after hc, opened_singleton]
  cases h : e.opens? c with
  | some s =>
    obtain ⟨hop, hnone, rfl⟩ := e.opens_inv h
    rw [hop, hnone]
    unfold Op.actOn
    dsimp only
    rw [if_pos ⟨rfl, hnone⟩]
    rfl
  | none =>
    -- a scope that is asked for when there is none would be opened
    rw [Option.toList_none, List.append_nil]
    have hkeeps : (e.op.actOn e.before c (e.before.context c)).scope = (e.before.context c).scope := by
      refine actOn_keeps (Q := fun x => x.scope = (e.before.context c).scope) (fun st hop => ?_)
        (fun s hop hnone => ?_) rfl
      · refine step_scope _ fun hst => ?_
        rw [hop, hst] at htake
        exact htake rfl
      · unfold Event.opens? at h
        rw [hop] at h
        dsimp only at h
        rw [if_pos ⟨rfl, hnone⟩] at h
        cases h
    rw [hkeeps]

theorem scope_taken (hc : c < w.contexts.length) :
    ((World.perform (.onContext c .takeScope) w).2.context c).scope = none :=
  congrArg Context.scope (context_step .takeScope hc)

theorem Leads.scope_after (h : Leads w es w') (hc : c < w.contexts.length)
    (htake : ∀ e ∈ es, e.op ≠ .onContext c .takeScope) :
    (w'.context c).scope.toList = (w.context c).scope.toList ++ opened c es := by
  induction es generalizing w with
  | nil =>
    cases h
    exact (List.append_nil _).symm
  | cons e es ih =>
    obtain ⟨rfl, h⟩ := h
    rw [ih h (lt_of_lt_of_le hc e.length_le) fun x hx => htake x (List.mem_cons_of_mem _ hx),
      e.scope_after hc (htake e (List.mem_cons_self ..)), List.append_assoc, ← opened_append, List.singleton_append]

/-- The scope of a context was opened for it, sooner or later. -/
theorem Leads.slot_opened (h : Leads w es w') (hc : c < w.contexts.length) (hs : (w'.context c).scope = some s) :
    (w.context c).scope = some s ∨ s ∈ opened c es := by
  induction es generalizing w with
  | nil =>
    cases h
    exact .inl hs
  | cons e es ih =>
    obtain ⟨rfl, h⟩ := h
    rw [← List.singleton_append, opened_append, List.mem_append]
    rcases ih h (lt_of_lt_of_le hc e.length_le) with hslot | hlater
    · by_cases htake : e.op = .onContext c .takeScope
      · unfold Event.after at hslot
        rw [htake, scope_taken hc] at hslot
        cases hslot
      · rw [← Option.mem_toList, e.scope_after hc htake, List.mem_append, Option.mem_toList] at hslot
        exact hslot.imp_right .inl
    · exact .inr (.inr hlater)

end FunctionWorker
