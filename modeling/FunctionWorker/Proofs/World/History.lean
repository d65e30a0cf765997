/-
Histories of a world in which several tasks take part. Every task sees the same history as a run of
its own, with the operations of all the others in between. What the world gives out, tokens, contexts
and scopes, is numbered in order, so that nothing is given out twice.
-/
import FunctionWorker.Proofs.World.Scopes

namespace FunctionWorker

/-! ## Views -/

/-- An operation that was carried out for a task, and the world before it. -/
structure Deed where
  task : Nat
  op : Op
  before : World

/-- A history as the task `t` sees it. -/
def view (t : Nat) (history : List Deed) : List Event := history.map fun d => ⟨d.task == t, d.op, d.before⟩

variable {history : List Deed} {t t' : Nat} {w w' u u' : World} {es : List Event} {op : Op}

theorem deed_eq {d : Deed} (h : (⟨d.task == t, d.op, d.before⟩ : Event) = ⟨true, op, u⟩) : d = ⟨t, op, u⟩ := by
  obtain ⟨task, op', u'⟩ := d
  obtain ⟨htask, rfl, rfl⟩ := Event.mk.injEq .. ▸ h
  obtain rfl : task = t := eq_of_beq htask
  rfl

/-- A task sees as its own what was carried out for it. -/
theorem mem_view : ⟨true, op, u⟩ ∈ view t history ↔ ⟨t, op, u⟩ ∈ history := by
  constructor
  · intro h
    obtain ⟨d, hd, heq⟩ := List.mem_map.1 h
    rwa [deed_eq heq] at hd
  · intro h
    exact List.mem_map.2 ⟨_, h, by rw [beq_self_eq_true]⟩

/-- What a task asked for is what all others saw another task ask for. -/
theorem view_others (h : ⟨true, op, u⟩ ∈ view t history) (ht : t ≠ t') : ⟨false, op, u⟩ ∈ view t' history := by
  obtain ⟨d, hd, heq⟩ := List.mem_map.1 h
  obtain ⟨hmine, rfl, rfl⟩ := Event.mk.injEq .. ▸ heq
  have hother : (d.task == t') = false := by
    rw [eq_of_beq hmine]
    exact beq_false_of_ne ht
  exact List.mem_map.2 ⟨d, hd, by rw [hother]⟩

/-- Whatever another task asked for was asked for by some task. -/
theorem view_task (h : ⟨false, op, u⟩ ∈ view t history) : ∃ t' ≠ t, ⟨true, op, u⟩ ∈ view t' history := by
  obtain ⟨d, hd, heq⟩ := List.mem_map.1 h
  obtain ⟨hother, rfl, rfl⟩ := Event.mk.injEq .. ▸ heq
  exact ⟨d.task, ne_of_beq_false hother, List.mem_map.2 ⟨d, hd, by rw [beq_self_eq_true]⟩⟩

/-- All tasks see the same scopes being opened. -/
theorem opened_view (c : ContextId) (t t' : Nat) (history : List Deed) :
    opened c (view t history) = opened c (view t' history) := by
  unfold opened view
  rw [List.filterMap_map, List.filterMap_map]
  rfl

/-! ## Numbers that are given out -/

/-- A number of the world that no operation lowers. -/
def Grows (size : World → Nat) : Prop := ∀ op w, size w ≤ size (World.perform op w).2

theorem Grows.leads {size : World → Nat} (hg : Grows size) (h : Leads w es w') : size w ≤ size w' :=
  h.keeps (P := fun v => size w ≤ size v) (fun e _ hle => le_trans hle (hg e.op e.before)) le_rfl

/-- Two different events that raise a number find it different. -/
theorem Grows.apart {size : World → Nat} (hg : Grows size) (h : Leads w es w') {x y : Event} (hx : x ∈ es)
    (hy : y ∈ es) (hne : x ≠ y) (hrx : size x.before < size x.after) (hry : size y.before < size y.after) :
    size x.before ≠ size y.before := by
  -- when the later one comes, the earlier one has raised the number
  have hord : ∀ (a b : Event) (es₁ es₂ : List Event) (v : World), Leads v (a :: es₁ ++ b :: es₂) w' →
      size a.before < size a.after → size a.before ≠ size b.before := by
    intro a b es₁ es₂ v hv hra heq
    obtain ⟨-, hrest⟩ := hv
    obtain ⟨v', hbetween, hb, -⟩ := leads_append.1 hrest
    have hle := hg.leads hbetween
    rw [← hb] at hle
    omega
  obtain ⟨es₁, es₂, rfl⟩ := List.append_of_mem hx
  obtain ⟨v, hfront, hback⟩ := leads_append.1 h
  rcases List.mem_append.1 hy with hy | hy
  · obtain ⟨es₃, es₄, rfl⟩ := List.append_of_mem hy
    obtain ⟨v', -, hfrom⟩ := leads_append.1 hfront
    exact (hord y x es₄ es₂ v' (leads_append.2 ⟨v, hfrom, hback⟩) hry).symm
  · rcases List.mem_cons.1 hy with rfl | hy
    · exact absurd rfl hne
    · obtain ⟨es₃, es₄, rfl⟩ := List.append_of_mem hy
      exact hord x y es₃ es₄ v hback hrx

theorem length_lt_concat {α : Type} (l : List α) (a : α) : l.length < (l ++ [a]).length := by
  rw [List.length_append]
  exact Nat.lt_succ_self _

theorem tokens_grow : Grows (·.cancellations.tokens.length) := by
  intro op w
  show w.cancellations.tokens.length ≤ (World.perform op w).2.cancellations.tokens.length
  rw [cancellations_perform]
  cases op with
  | drawToken => exact (length_lt_concat w.cancellations.tokens false).le
  | signal token =>
    show _ ≤ (w.cancellations.tokens.set token true).length
    rw [List.length_set]
  | tryCancel id =>
    show _ ≤ (w.cancellations.tryCancel id).2.tokens.length
    unfold CancellationRegistry.tryCancel
    split
    · exact List.length_set.ge
    · exact le_rfl
  | _ => exact le_rfl

theorem contexts_grow : Grows (·.contexts.length) := length_le_perform

theorem resolve_length (services : Services) (scope : ScopeId) (type : String) :
    (services.resolve scope type).2.scopes.length = services.scopes.length := by
  unfold Services.resolve
  split
  · rfl
  · split
    · split
      · rfl
      · split
        · rfl
        · dsimp only
          split
          · rfl
          · exact List.length_set
    · rfl

theorem scopes_grow : Grows (·.services.scopes.length) := by
  intro op w
  show w.services.scopes.length ≤ (World.perform op w).2.services.scopes.length
  rw [services_perform]
  cases op with
  | scopeOf c =>
    show _ ≤ (if (w.context c).scope = none then w.services.openScope.2 else w.services).scopes.length
    split
    · exact (length_lt_concat w.services.scopes _).le
    · exact le_rfl
  | resolve scope type => exact (resolve_length w.services scope type).ge
  | disposeScope scope =>
    show _ ≤ (w.services.dispose scope).scopes.length
    unfold Services.dispose
    split
    · exact List.length_set.ge
    · exact le_rfl
  | _ => exact le_rfl

/-! ## What is given out once -/

/-- Tokens that were drawn by a task and by another one differ. -/
theorem tokens_apart (h : Leads w es w') (hx : ⟨true, .drawToken, u⟩ ∈ es) (hy : ⟨false, .drawToken, u'⟩ ∈ es) :
    u.cancellations.tokens.length ≠ u'.cancellations.tokens.length :=
  tokens_grow.apart h hx hy (fun heq => by cases heq) (length_lt_concat _ _) (length_lt_concat _ _)

theorem contexts_apart {facts facts' : ContextFacts} (h : Leads w es w')
    (hx : ⟨true, .newContext facts, u⟩ ∈ es) (hy : ⟨false, .newContext facts', u'⟩ ∈ es) :
    u.contexts.length ≠ u'.contexts.length :=
  contexts_grow.apart h hx hy (fun heq => by cases heq) (length_lt_concat _ _) (length_lt_concat _ _)

theorem Event.scopes_lt {e : Event} {c : ContextId} {s : ScopeId} (h : e.opens? c = some s) :
    e.before.services.scopes.length < e.after.services.scopes.length := by
  obtain ⟨hop, hnone, -⟩ := e.opens_inv h
  unfold Event.after
  rw [services_perform, hop]
  show _ < (if (e.before.context c).scope = none then _ else _ : Services).scopes.length
  rw [if_pos hnone]
  exact length_lt_concat _ _

/-- Scopes that were opened for different contexts differ. -/
theorem opened_apart {c c' : ContextId} (h : Leads w es w') (hc : c ≠ c') {s : ScopeId} (hs : s ∈ opened c es) :
    s ∉ opened c' es := by
  intro hs'
  obtain ⟨x, hx, hopens⟩ := List.mem_filterMap.1 hs
  obtain ⟨y, hy, hopens'⟩ := List.mem_filterMap.1 hs'
  obtain ⟨hop, -, hsx⟩ := x.opens_inv hopens
  obtain ⟨hop', -, hsy⟩ := y.opens_inv hopens'
  have hne : x ≠ y := by
    rintro rfl
    rw [hop] at hop'
    cases hop'
    exact hc rfl
  exact scopes_grow.apart h hx hy hne (Event.scopes_lt hopens) (Event.scopes_lt hopens') (hsx ▸ hsy)

end FunctionWorker
