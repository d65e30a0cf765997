/-
Invocations register in order. Each of them inserts one registration, under the token that it drew for
it, and removes that one afterwards; so whatever a crowd of invocations and other tasks does, whether
their ids are the same or not, the registry stands as its history says.
-/
import FunctionWorker.Proofs.Invocation.Ownership
import FunctionWorker.Proofs.World.Standing

namespace FunctionWorker

variable {w w' u : World} {es past later : List Event} {e : Event} {reg r : Registration}

/-! ## Registering once -/

/-- An operation that neither inserts nor removes a registration. -/
def Op.LeavesRegistry (op : Op) : Prop := ∀ r, op ≠ .insertRegistration r ∧ op ≠ .removeRegistration r

theorem Own.leavesRegistry (h : Own (·.isRelease = false) es) : Own Op.LeavesRegistry es := by
  refine h.imp fun op hop r => ?_
  constructor
  · rintro rfl
    cases hop
  · rintro rfl
    cases hop

/-- What a task does that registers once: it draws a token, inserts the registration and removes it, and
nothing else that it does is about registrations. -/
def RegistersOnce (reg : Registration) (es : List Event) : Prop :=
  ∃ before x between y after,
    es = before ++ ⟨true, .insertRegistration reg, x⟩ :: (between ++ ⟨true, .removeRegistration reg, y⟩ :: after) ∧
      (∃ u : World, ⟨true, .drawToken, u⟩ ∈ before ∧ reg.token = u.cancellations.tokens.length) ∧
      Own Op.LeavesRegistry before ∧ Own Op.LeavesRegistry between ∧ Own Op.LeavesRegistry after

/-- An element of a list is the marked one, or it comes after or before that. -/
theorem append_cons_cases {α : Type} {l₁ l₂ k₁ k₂ : List α} {a b : α} (h : l₁ ++ a :: l₂ = k₁ ++ b :: k₂) :
    (l₁ = k₁ ∧ a = b) ∨ (a ∈ k₂ ∧ b ∈ l₁) ∨ a ∈ k₁ := by
  rcases List.append_eq_append_iff.1 h with ⟨m, rfl, hm⟩ | ⟨m, rfl, hm⟩
  · cases m with
    | nil => exact .inl ⟨(List.append_nil l₁).symm, (List.cons.inj hm).1⟩
    | cons c m =>
      obtain ⟨rfl, -⟩ := List.cons.inj hm
      exact .inr (.inr (by simp))
  · cases m with
    | nil => exact .inl ⟨List.append_nil k₁, (List.cons.inj hm).1.symm⟩
    | cons c m =>
      obtain ⟨rfl, rfl⟩ := List.cons.inj hm
      exact .inr (.inl ⟨by simp, by simp⟩)

/-- The insertion comes after the drawing of its token, and nothing about registrations comes before. -/
theorem RegistersOnce.insert_inv (h : RegistersOnce reg (past ++ ⟨true, .insertRegistration r, u⟩ :: later)) :
    r = reg ∧ (∃ u : World, ⟨true, .drawToken, u⟩ ∈ past ∧ reg.token = u.cancellations.tokens.length) ∧
      Own Op.LeavesRegistry past := by
  obtain ⟨before, x, between, y, after, heq, hdrawn, hbefore, hbetween, hafter⟩ := h
  rcases append_cons_cases heq with ⟨rfl, hsame⟩ | ⟨hmem, -⟩ | hmem
  · cases hsame
    exact ⟨rfl, hdrawn, hbefore⟩
  · rcases List.mem_append.1 hmem with hmem | hmem
    · exact absurd rfl (hbetween _ hmem rfl r).1
    · rcases List.mem_cons.1 hmem with hsame | hmem
      · cases hsame
      · exact absurd rfl (hafter _ hmem rfl r).1
  · exact absurd rfl (hbefore _ hmem rfl r).1

/-- What is removed was inserted before. -/
theorem RegistersOnce.remove_inv (h : RegistersOnce reg (past ++ ⟨true, .removeRegistration r, u⟩ :: later)) :
    ∃ x, ⟨true, .insertRegistration r, x⟩ ∈ past := by
  obtain ⟨before, x, between, y, after, heq, -, hbefore, hbetween, hafter⟩ := h
  rcases append_cons_cases heq with ⟨-, hsame⟩ | ⟨hmem, hinsert⟩ | hmem
  · cases hsame
  · rcases List.mem_append.1 hmem with hmem | hmem
    · exact absurd rfl (hbetween _ hmem rfl r).2
    · rcases List.mem_cons.1 hmem with hsame | hmem
      · cases hsame
        exact ⟨x, hinsert⟩
      · exact absurd rfl (hafter _ hmem rfl r).2
  · exact absurd rfl (hbefore _ hmem rfl r).2

namespace Invoker

variable {v : Invoker} {request : InvocationRequest} {a : Except Panic InvocationResponse}

theorem Disposes.leavesRegistry {c : ContextId} (h : Disposes c w es w') : Own Op.LeavesRegistry es := by
  have hop : ∀ s, (Op.onContext c s).LeavesRegistry := fun s r => ⟨nofun, nofun⟩
  cases h with
  | again marked => exact marked.own (hop _)
  | withoutScope marked taken cleared =>
    exact (marked.own (hop _)).append ((taken.own (hop _)).append (cleared.own (hop _)))
  | withScope marked taken disposed cleared =>
    exact (marked.own (hop _)).append ((taken.own (hop _)).append
      ((disposed.own fun r => ⟨nofun, nofun⟩).append (cleared.own (hop _))))

/-- Every invocation registers once, unless there is no such function. -/
theorem invoke_registersOnce (run : Job.Run (v.invoke request) w es a w') :
    Own Op.LeavesRegistry es ∨ ∃ reg, RegistersOnce reg es := by
  obtain ⟨course, takes, -⟩ := invoke_takes run
  cases takes with
  | unknown found others leads => exact .inl ((found.modest rfl).leavesRegistry.append others.own)
  | loaded passes settles releases =>
    obtain ⟨found, drawn, registered, created, executed, read⟩ := passes
    rename_i es₀ es₁ es₂ es₃ es₄ es₅ d token c passage w₀ w₁ w₂ w₃ w₄
    obtain ⟨removed, disposes, others, -⟩ := releases
    obtain ⟨waiting, u, hdrawn, -, -, htoken, -⟩ := id drawn
    obtain ⟨before, x, hinserted, hbefore, -⟩ := registered
    obtain ⟨between, y, hremoved, hbetween, -⟩ := removed
    have hprepares := (found.modest rfl).append (drawn.modest rfl)
    have hgoes := (created.modest rfl).append ((executed.modest.append (read.modest rfl)).append settles.modest)
    refine .inr ⟨⟨request.invocationId, token⟩, _, x, _, y, _, ?_, ⟨u, ?_, htoken⟩,
      hprepares.leavesRegistry.append hbefore.own, hgoes.leavesRegistry.append hbetween.own,
      disposes.leavesRegistry.append others.own⟩
    · rw [hinserted, hremoved]
      simp only [List.append_assoc, List.cons_append, List.nil_append]
    · rw [hdrawn]
      simp only [List.mem_append, List.mem_singleton, or_true, true_or]

end Invoker

/-! ## Crowds -/

theorem mem_inserted : r ∈ inserted es ↔ ∃ mine x, ⟨mine, .insertRegistration r, x⟩ ∈ es := by
  unfold inserted
  rw [List.mem_filterMap]
  constructor
  · rintro ⟨⟨mine, op, x⟩, he, hi⟩
    obtain rfl := Event.inserts_inv hi
    exact ⟨mine, x, he⟩
  · rintro ⟨mine, x, he⟩
    exact ⟨_, he, rfl⟩

theorem mem_drawn (h : ⟨true, .drawToken, u⟩ ∈ es) : u.cancellations.tokens.length ∈ drawn es :=
  List.mem_filterMap.2 ⟨_, h, rfl⟩

/-- Histories are in order in which every event is, with what came before it. -/
theorem orderlyAfter_of_splits (h : ∀ es₁ e es₂, es = es₁ ++ e :: es₂ → InOrder (past ++ es₁) e) :
    OrderlyAfter past es := by
  induction es generalizing past with
  | nil => trivial
  | cons e es ih =>
    have hhead := h [] e es rfl
    rw [List.append_nil] at hhead
    refine ⟨hhead, ih fun es₁ x es₂ heq => ?_⟩
    rw [List.append_assoc, List.singleton_append]
    exact h (e :: es₁) x es₂ (congrArg (e :: ·) heq)

variable {history before after : List Deed} {d : Deed} {t : Nat} {op : Op}

theorem drawn_view (t t' : Nat) (history : List Deed) : drawn (view t history) = drawn (view t' history) := by
  unfold drawn view
  rw [List.filterMap_map, List.filterMap_map]
  rfl

theorem inserted_view (t t' : Nat) (history : List Deed) :
    inserted (view t history) = inserted (view t' history) := by
  unfold inserted view
  rw [List.filterMap_map, List.filterMap_map]
  rfl

theorem view_split (before after : List Deed) (d : Deed) :
    view d.task (before ++ d :: after) = view d.task before ++ ⟨true, d.op, d.before⟩ :: view d.task after := by
  unfold view
  rw [List.map_append, List.map_cons, beq_self_eq_true]

/-- A task of a crowd that inserts or removes a registration does so once. -/
theorem Crowd.registersOnce (crowd : Crowd w history) (h : ⟨true, op, u⟩ ∈ view t history)
    (hop : ¬ op.LeavesRegistry) :
    ∃ reg more w', RegistersOnce reg (view t history ++ more) ∧ Leads w (view t history ++ more) w' := by
  rcases crowd t with hown | ⟨v, request, more, r, w', run⟩
  · exact absurd (hown.leavesRegistry _ h rfl) hop
  · rcases Invoker.invoke_registersOnce run with hown | ⟨reg, honce⟩
    · exact absurd (hown _ (List.mem_append_left _ h) rfl) hop
    · exact ⟨reg, more, w', honce, run.leads⟩

theorem not_leavesRegistry_insert : ¬ (Op.insertRegistration r).LeavesRegistry := fun h => (h r).1 rfl

theorem not_leavesRegistry_remove : ¬ (Op.removeRegistration r).LeavesRegistry := fun h => (h r).2 rfl

/-- The tokens of two tasks that register differ. -/
theorem Crowd.tokens_ne {t' : Nat} {x y : World} (crowd : Crowd w history)
    (hx : ⟨true, .drawToken, x⟩ ∈ view t history) (hr : ⟨true, .insertRegistration r, y⟩ ∈ view t' history)
    (ht : t ≠ t') : r.token ≠ x.cancellations.tokens.length := by
  obtain ⟨reg, more, w', honce, hleads⟩ := crowd.registersOnce hr not_leavesRegistry_insert
  obtain ⟨past, later, heq⟩ := List.append_of_mem hr
  rw [heq, List.append_assoc, List.cons_append] at honce
  obtain ⟨rfl, ⟨u, hu, htoken⟩, -⟩ := honce.insert_inv
  rw [htoken]
  refine tokens_apart hleads (List.mem_append_left _ ?_) (List.mem_append_left _ (view_others hx ht))
  rw [heq]
  exact List.mem_append_left _ hu

/-- What a task inserts is under a token that was drawn for it, and that no one else has. -/
theorem Crowd.insert_inv (crowd : Crowd w (before ++ d :: after)) (hop : d.op = .insertRegistration r) :
    r.token ∈ drawn (view d.task before) ∧ ∀ x ∈ inserted (view d.task before), x.token ≠ r.token := by
  have hsplit := view_split before after d
  rw [hop] at hsplit
  have hmem : ⟨true, .insertRegistration r, d.before⟩ ∈ view d.task (before ++ d :: after) := by
    rw [hsplit]
    exact List.mem_append_right _ (List.mem_cons_self ..)
  obtain ⟨reg, more, w', honce, -⟩ := crowd.registersOnce hmem not_leavesRegistry_insert
  rw [hsplit, List.append_assoc, List.cons_append] at honce
  obtain ⟨rfl, ⟨u, hu, htoken⟩, hquiet⟩ := honce.insert_inv
  have hin : ∀ {t e}, e ∈ view t before → e ∈ view t (before ++ d :: after) := by
    intro t e he
    unfold view
    rw [List.map_append]
    exact List.mem_append_left _ he
  refine ⟨htoken ▸ mem_drawn hu, fun x hx => ?_⟩
  obtain ⟨mine, y, hy⟩ := mem_inserted.1 hx
  cases mine with
  | true => exact absurd rfl (hquiet _ hy rfl x).1
  | false =>
    obtain ⟨t', ht, hown⟩ := view_task hy
    rw [htoken]
    exact crowd.tokens_ne (hin hu) (hin hown) ht.symm

/-- What a task removes it has inserted. -/
theorem Crowd.remove_inv (crowd : Crowd w (before ++ d :: after)) (hop : d.op = .removeRegistration r) :
    r ∈ inserted (view d.task before) := by
  have hsplit := view_split before after d
  rw [hop] at hsplit
  have hmem : ⟨true, .removeRegistration r, d.before⟩ ∈ view d.task (before ++ d :: after) := by
    rw [hsplit]
    exact List.mem_append_right _ (List.mem_cons_self ..)
  obtain ⟨reg, more, w', honce, -⟩ := crowd.registersOnce hmem not_leavesRegistry_remove
  rw [hsplit, List.append_assoc, List.cons_append] at honce
  obtain ⟨x, hx⟩ := honce.remove_inv
  exact mem_inserted.2 ⟨true, x, hx⟩

/-- In a crowd registrations are in order, whichever of its tasks looks on. -/
theorem Crowd.orderly (crowd : Crowd w history) (t : Nat) : Orderly (view t history) := by
  refine orderlyAfter_of_splits fun es₁ e es₂ heq => ?_
  obtain ⟨before, rest, rfl, rfl, hrest⟩ := List.map_eq_append_iff.1 heq
  obtain ⟨d, after, rfl, rfl, rfl⟩ := List.map_eq_cons_iff.1 hrest
  show InOrder (view t before) _
  have hinsert : ∀ r, Event.inserts? ⟨d.task == t, d.op, d.before⟩ = some r → d.op = .insertRegistration r :=
    fun r => Event.inserts_inv
  refine ⟨fun r hr => ?_, fun r hr x hx => ?_, fun r hr => ?_⟩
  · rw [drawn_view t d.task]
    exact (crowd.insert_inv (hinsert r hr)).1
  · rw [inserted_view t d.task] at hx
    exact (crowd.insert_inv (hinsert r hr)).2 x hx
  · rw [inserted_view t d.task]
    exact crowd.remove_inv (Event.removes_inv hr)

end FunctionWorker
