/-
The disposal of a context in a world that is shared. Up to then the context has at most one scope,
which nobody disposes of; from then on it refuses what is asked of it, whoever asks.
-/
import FunctionWorker.Proofs.World.Scopes

namespace FunctionWorker

variable {w w' : World} {c : ContextId} {es : List Event} {ss S : List ScopeId}

/-! ## Before the disposal -/

/-- The operations by which a context is disposed of with some scopes. -/
inductive Frees (c : ContextId) (S : List ScopeId) : Op → Prop
  | marked : Frees c S (.onContext c .markDisposed)
  | taken : Frees c S (.onContext c .takeScope)
  | disposed {s} (hs : s ∈ S) : Frees c S (.disposeScope s)
  | cleared : Frees c S (.onContext c .clearItems)

theorem Frees.mono {op : Op} (h : Frees c ss op) (hsub : ss ⊆ S) : Frees c S op := by
  cases h with
  | disposed hs => exact .disposed (hsub hs)
  | marked => exact .marked
  | taken => exact .taken
  | cleared => exact .cleared

/-- A context that is not disposed of, with the scopes opened for it. -/
structure Holds (c : ContextId) (ss : List ScopeId) (w : World) : Prop where
  present : c < w.contexts.length
  live : (w.context c).state ≠ .disposed
  slot : (w.context c).scope.toList = ss
  fresh : ∀ s ∈ ss, w.disposals? s = some 0

theorem Leads.disposals_keeps {s : ScopeId} {n : Nat} (h : Leads w es w')
    (hes : ∀ e ∈ es, e.op ≠ .disposeScope s) (hn : w.disposals? s = some n) : w'.disposals? s = some n :=
  h.keeps (P := fun v => v.disposals? s = some n) (fun e he => disposals_perform (hes e he)) hn

/-- A scope that is opened is not disposed of until someone does it. -/
theorem Leads.disposals_opened {s : ScopeId} (h : Leads w es w') (hs : s ∈ opened c es)
    (hes : ∀ e ∈ es, e.op ≠ .disposeScope s) : w'.disposals? s = some 0 := by
  obtain ⟨e, he, hopens⟩ := List.mem_filterMap.1 hs
  obtain ⟨es₁, es₂, rfl⟩ := List.append_of_mem he
  obtain ⟨v, -, -, hleads⟩ := leads_append.1 h
  exact hleads.disposals_keeps (fun x hx => hes x (List.mem_append_right _ (List.mem_cons_of_mem _ hx)))
    (e.disposals_opens hopens)

/-- As long as no scope is taken or disposed of, a context has the one that was opened for it. -/
theorem Holds.untaken (h : Holds c ss w) (hleads : Leads w es w') (htake : ∀ e ∈ es, e.op ≠ .onContext c .takeScope)
    (hdispose : ∀ s ∈ ss ++ opened c es, ∀ e ∈ es, e.op ≠ .disposeScope s) :
    (w'.context c).scope.toList = ss ++ opened c es ∧ ∀ s ∈ ss ++ opened c es, w'.disposals? s = some 0 := by
  constructor
  · rw [hleads.scope_after h.present htake, h.slot]
  · intro s hs
    rcases List.mem_append.1 hs with hfirst | hlater
    · exact hleads.disposals_keeps (hdispose s hs) (h.fresh s hfirst)
    · exact hleads.disposals_opened hlater (hdispose s hs)

theorem Leads.live (h : Leads w es w') (hc : c < w.contexts.length) (hlive : (w.context c).state ≠ .disposed)
    (hes : ∀ e ∈ es, e.op ≠ .onContext c .markDisposed) :
    c < w'.contexts.length ∧ (w'.context c).state ≠ .disposed := by
  refine h.keeps (P := fun v => c < v.contexts.length ∧ (v.context c).state ≠ .disposed) ?_ ⟨hc, hlive⟩
  rintro e he ⟨hlen, hstate⟩
  refine ⟨lt_of_lt_of_le hlen e.length_le, ?_⟩
  rw [e.context_after hlen]
  refine actOn_keeps (Q := fun x => x.state ≠ .disposed) (fun st hop => ?_) (fun s _ _ => hstate) hstate
  refine step_live hstate fun hst => hes e he ?_
  rw [hop, hst]

/-- A context of which nobody frees anything is held, with the scope that is opened for it meanwhile. -/
theorem Holds.leads (h : Holds c ss w) (hleads : Leads w es w') (hes : ∀ e ∈ es, ¬ Frees c S e.op)
    (hS : ss ++ opened c es ⊆ S) : Holds c (ss ++ opened c es) w' := by
  obtain ⟨hslot, hfresh⟩ := h.untaken hleads (fun e he htake => hes e he (htake ▸ .taken))
    fun s hs e he hdispose => hes e he (hdispose ▸ .disposed (hS hs))
  obtain ⟨hpresent, hlive⟩ := hleads.live h.present h.live fun e he hmark => hes e he (hmark ▸ .marked)
  exact ⟨hpresent, hlive, hslot, hfresh⟩

/-- At most one scope was opened for a context. -/
theorem Holds.length_le (h : Holds c ss w) : ss.length ≤ 1 := by
  rw [← h.slot]
  cases (w.context c).scope with
  | none => exact Nat.zero_le _
  | some s => exact le_rfl

/-! ## After the disposal -/

/-- A context that is disposed of. -/
structure Closed (c : ContextId) (w : World) : Prop where
  present : c < w.contexts.length
  state : (w.context c).state = .disposed

theorem Closed.event {e : Event} (h : Closed c e.before) : Closed c e.after := by
  refine ⟨lt_of_lt_of_le h.present e.length_le, ?_⟩
  rw [e.context_after h.present]
  exact actOn_keeps (Q := fun x => x.state = .disposed) (fun st _ => step_disposed st h.state)
    (fun _ _ _ => h.state) h.state

/-- A context that is disposed of stays so, whatever is done. -/
theorem Closed.leads (h : Closed c w) (hleads : Leads w es w') : Closed c w' :=
  hleads.keeps (fun _ _ => Closed.event) h

theorem context_marked (hc : c < w.contexts.length) :
    (World.perform (.onContext c .markDisposed) w).2.context c = { w.context c with state := .disposed } :=
  (context_step .markDisposed hc).trans (markDisposed_eq _)

theorem items_cleared (hc : c < w.contexts.length) :
    ((World.perform (.onContext c .clearItems) w).2.context c).items = [] :=
  congrArg Context.items (context_step .clearItems hc)

theorem closed_marked (hc : c < w.contexts.length) : Closed c (World.perform (.onContext c .markDisposed) w).2 :=
  ⟨lt_of_lt_of_le hc (length_le_perform _ _), by rw [context_marked hc]⟩

/-- A context that is not disposed of yet is disposed of by marking it, and keeps its scope for now. -/
theorem Holds.marked (h : Holds c ss w) :
    (World.perform (.onContext c .markDisposed) w).1 = true ∧
    Closed c (World.perform (.onContext c .markDisposed) w).2 ∧
    ((World.perform (.onContext c .markDisposed) w).2.context c).scope.toList = ss ∧
    ∀ s ∈ ss, (World.perform (.onContext c .markDisposed) w).2.disposals? s = some 0 := by
  refine ⟨(markDisposed_first _).2 h.live, closed_marked h.present, ?_,
    fun s hs => disposals_perform nofun (h.fresh s hs)⟩
  · rw [context_marked h.present]
    exact h.slot

/-- Without asking for the scope of a context none is opened for it. -/
theorem opened_eq_nil (hes : ∀ e ∈ es, e.op ≠ .scopeOf c) : opened c es = [] := by
  refine List.filterMap_eq_nil_iff.2 fun e he => ?_
  cases hopens : e.opens? c with
  | none => rfl
  | some s => exact absurd (e.opens_inv hopens).1 (hes e he)

/-! ## Refusals -/

/-- What is asked of a context in a world fails because the context is disposed of, whatever goes on
besides. -/
structure Refused (c : ContextId) (w : World) : Prop where
  setItem : ∀ key value es r w', Job.Run (Job.setItem c key value) w es r w' → r = .ok (.error .disposed)
  setOutput : ∀ name value es r w', Job.Run (Job.setOutput c name value) w es r w' →
    r = .ok (.error .disposed)
  setResult : ∀ result es r w', Job.Run (Job.setResult c result) w es r w' → r = .ok (.error .disposed)
  openServices : ∀ es r w', Job.Run (Job.openServices c) w es r w' → r = .ok (.error .disposed)

/-- A job that begins with the check of a context that is disposed of. -/
theorem Closed.check {α : Type} {f : Except ContextError Unit → Job (Except ContextError α)}
    {r : Except Panic (Except ContextError α)} (h : Closed c w)
    (hrun : Job.Run (Job.onContext c .checkExecuting >>= f) w es r w')
    (hf : f (.error .disposed) = .done (.error .disposed)) : r = .ok (.error .disposed) := by
  obtain ⟨es₁, es₂, a, v, rfl, ⟨es₃, u, rfl, -, hleads, rfl, -⟩, hrun⟩ := Job.Run.op_inv hrun
  have hcheck : (World.perform (.onContext c .checkExecuting) u).1 = .error .disposed := by
    show (u.context c).checkExecuting = .error .disposed
    unfold Context.checkExecuting
    rw [(h.leads hleads).state]
  rw [hcheck, hf] at hrun
  exact hrun.2.2

theorem Closed.refused (h : Closed c w) : Refused c w := by
  refine ⟨fun key value es r w' hrun => h.check hrun rfl, fun name value es r w' hrun => h.check hrun rfl,
    fun result es r w' hrun => h.check hrun rfl, fun es r w' hrun => ?_⟩
  obtain ⟨es₁, es₂, state, v, rfl, ⟨es₃, u, rfl, -, hleads, rfl, -⟩, hrun⟩ := Job.Run.op_inv hrun
  have hstate : (World.perform (.onContext c .state) u).1 = .disposed := (h.leads hleads).state
  rw [hstate] at hrun
  exact hrun.2.2

end FunctionWorker
