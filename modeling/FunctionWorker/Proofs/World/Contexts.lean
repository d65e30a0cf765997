/-
What becomes of a context in a world that is shared. An operation changes a context only if it is a
step on it or opens its scope, and contexts are never taken away.
-/
import FunctionWorker.Proofs.World.Operations
import FunctionWorker.Proofs.World.Run

namespace FunctionWorker

variable {w w' : World} {c : ContextId} {es : List Event}

/-! ## One operation -/

theorem length_le_perform (op : Op) (w : World) :
    w.contexts.length ≤ (World.perform op w).2.contexts.length := by
  rw [contexts_perform]
  unfold Op.contextsAfter
  split
  · rw [List.length_append]; omega
  · rw [List.length_set]
  · split
    · rw [List.length_set]
    · rfl
  · rfl

/-- What an operation in the world `w` does to the context `c`. -/
def Op.actOn (w : World) (c : ContextId) : Op → Context → Context
  | .onContext c' s, x => if c' = c then (s.perform x).2 else x
  | .scopeOf c', x => if c' = c ∧ x.scope = none then { x with scope := some w.services.scopes.length } else x
  | _, x => x

theorem getD_set (hc : c < w.contexts.length) (c' : ContextId) (x : Context) :
    (w.contexts.set c' x).getD c default = if c' = c then x else w.context c := by
  unfold World.context
  rw [List.getD_eq_getElem?_getD, List.getElem?_set]
  by_cases h : c' = c
  · subst h
    rw [if_pos rfl, if_pos hc, if_pos rfl, Option.getD_some]
  · rw [if_neg h, if_neg h, List.getD_eq_getElem?_getD]

theorem context_perform (op : Op) (hc : c < w.contexts.length) :
    (World.perform op w).2.context c = op.actOn w c (w.context c) := by
  show (World.perform op w).2.contexts.getD c default = op.actOn w c (w.context c)
  rw [contexts_perform]
  cases op with
  | newContext facts =>
    unfold Op.contextsAfter
    dsimp only
    rw [List.getD_eq_getElem?_getD, List.getElem?_append_left hc, ← List.getD_eq_getElem?_getD]
    rfl
  | onContext c' s =>
    show (w.contexts.set c' (s.perform (w.context c')).2).getD c default =
      if c' = c then (s.perform (w.context c)).2 else w.context c
    rw [getD_set hc]
    by_cases h : c' = c
    · rw [if_pos h, if_pos h, h]
    · rw [if_neg h, if_neg h]
  | scopeOf c' =>
    unfold Op.contextsAfter Op.actOn
    dsimp only
    by_cases hs : (w.context c').scope = none
    · rw [if_pos hs, getD_set hc]
      by_cases h : c' = c
      · subst h
        rw [if_pos rfl, if_pos ⟨rfl, hs⟩]
      · rw [if_neg h, if_neg fun h' => h h'.1]
    · rw [if_neg hs, if_neg]
      · rfl
      · rintro ⟨rfl, h⟩
        exact hs h
  | _ => rfl

theorem context_step (s : ContextStep) (hc : c < w.contexts.length) :
    (World.perform (.onContext c s) w).2.context c = (s.perform (w.context c)).2 :=
  (context_perform _ hc).trans (if_pos rfl)

/-- What the steps on a context and the opening of its scope keep is kept by every operation. -/
theorem actOn_keeps {Q : Context → Prop} {op : Op} {x : Context}
    (hstep : ∀ s, op = .onContext c s → Q (s.perform x).2)
    (hscope : ∀ s, op = .scopeOf c → x.scope = none → Q { x with scope := some s }) (hx : Q x) :
    Q (op.actOn w c x) := by
  unfold Op.actOn
  split
  · rename_i c' s
    split
    · rename_i h
      subst h
      exact hstep s rfl
    · exact hx
  · rename_i c'
    split
    · rename_i h
      obtain ⟨rfl, hnone⟩ := h
      exact hscope _ rfl hnone
    · exact hx
  · exact hx

theorem Event.context_after (e : Event) (hc : c < e.before.contexts.length) :
    e.after.context c = e.op.actOn e.before c (e.before.context c) := context_perform e.op hc

/-- A new context is there, and is as it is made. -/
theorem context_new (facts : ContextFacts) (w : World) :
    w.contexts.length < (World.perform (.newContext facts) w).2.contexts.length ∧
    (World.perform (.newContext facts) w).2.context w.contexts.length = { facts } := by
  show w.contexts.length < (w.contexts ++ [_]).length ∧ (w.contexts ++ [_]).getD w.contexts.length default = _
  rw [List.length_append, List.getD_eq_getElem?_getD, List.getElem?_concat_length]
  exact ⟨Nat.lt_succ_self _, rfl⟩

theorem Event.length_le (e : Event) : e.before.contexts.length ≤ e.after.contexts.length :=
  length_le_perform e.op e.before

/-! ## State, items and scope -/

/-- A move changes nothing but the state, from one of its sources to its target. -/
theorem move_cases (sources : List ContextState) (target : ContextState) (x : Context) :
    (x.move sources target).2 = x ∨
      x.state ∈ sources ∧ (x.move sources target).2 = { x with state := target } := by
  unfold Context.move
  split
  · rename_i h
    exact .inr ⟨List.contains_iff_mem.1 h, rfl⟩
  · exact .inl rfl

theorem markDisposed_eq (x : Context) : x.markDisposed.2 = { x with state := .disposed } := by
  unfold Context.markDisposed
  split
  · rename_i h
    rw [← h]
  · rfl

theorem markDisposed_first (x : Context) : x.markDisposed.1 = true ↔ x.state ≠ .disposed := by
  unfold Context.markDisposed
  split
  · rename_i h
    exact ⟨nofun, fun hlive => absurd h hlive⟩
  · rename_i h
    exact ⟨fun _ => h, fun _ => rfl⟩

/-- The state of a context that is disposed of does not change any more. -/
theorem step_disposed (s : ContextStep) {x : Context} (h : x.state = .disposed) :
    (s.perform x).2.state = .disposed := by
  have hmove : ∀ sources target, ContextState.disposed ∉ sources →
      (x.move sources target).2.state = .disposed := by
    intro sources target hnot
    rcases move_cases sources target x with hx | ⟨hmem, -⟩
    · rw [hx, h]
    · exact absurd (h ▸ hmem) hnot
  cases s with
  | begin => exact hmove _ _ (by decide)
  | complete => exact hmove _ _ (by decide)
  | fault => exact hmove _ _ (by decide)
  | markDisposed => exact congrArg Context.state (markDisposed_eq x)
  | _ => exact h

/-- There is one step by which a context is disposed of. -/
theorem step_live {s : ContextStep} {x : Context} (h : x.state ≠ .disposed) (hs : s ≠ .markDisposed) :
    (s.perform x).2.state ≠ .disposed := by
  have hmove : ∀ sources target, target ≠ ContextState.disposed →
      (x.move sources target).2.state ≠ .disposed := by
    intro sources target hnot
    rcases move_cases sources target x with hx | ⟨-, hx⟩
    · rw [hx]
      exact h
    · rw [hx]
      exact hnot
  cases s with
  | begin => exact hmove _ _ (by decide)
  | complete => exact hmove _ _ (by decide)
  | fault => exact hmove _ _ (by decide)
  | markDisposed => exact absurd rfl hs
  | _ => exact h

/-- What a step makes of the items: one puts an item, one lets them go, and the others leave them alone. -/
def ContextStep.itemsAfter : ContextStep → List (String × Datum) → List (String × Datum)
  | .putItem key value, items => Entries.put key value items
  | .clearItems, _ => []
  | _, items => items

theorem step_itemsAfter (s : ContextStep) (x : Context) : (s.perform x).2.items = s.itemsAfter x.items := by
  have hmove : ∀ sources target, (x.move sources target).2.items = x.items := by
    intro sources target
    rcases move_cases sources target x with hx | ⟨-, hx⟩ <;> rw [hx]
  cases s with
  | begin | complete | fault => exact hmove _ _
  | markDisposed =>
    show x.markDisposed.2.items = x.items
    rw [markDisposed_eq]
  | _ => rfl

theorem step_scope {s : ContextStep} (x : Context) (hs : s ≠ .takeScope) :
    (s.perform x).2.scope = x.scope := by
  have hmove : ∀ sources target, (x.move sources target).2.scope = x.scope := by
    intro sources target
    rcases move_cases sources target x with hx | ⟨-, hx⟩ <;> rw [hx]
  cases s with
  | begin | complete | fault => exact hmove _ _
  | markDisposed =>
    show x.markDisposed.2.scope = x.scope
    rw [markDisposed_eq]
  | takeScope => exact absurd rfl hs
  | _ => rfl

/-! ## Items -/

/-- The item that an event puts into a context. -/
def Event.puts? (c : ContextId) (e : Event) : Option (String × Datum) :=
  match e.op with
  | .onContext c' (.putItem key value) => if c' = c then some (key, value) else none
  | _ => none

/-- The items that events put into a context, in order. -/
def kept (c : ContextId) (es : List Event) : List (String × Datum) := es.filterMap (·.puts? c)

/-- Items after others were put among them, one after another. -/
def putAll (items new : List (String × Datum)) : List (String × Datum) :=
  new.foldl (fun items i => Entries.put i.1 i.2 items) items

theorem putAll_eq_nil {new : List (String × Datum)} : putAll [] new = [] ↔ new = [] := by
  have hput : ∀ (i : String × Datum) items, Entries.put i.1 i.2 items ≠ [] := by
    intro i items
    cases items with
    | nil => exact List.cons_ne_nil _ _
    | cons first rest =>
      unfold Entries.put
      split <;> exact List.cons_ne_nil _ _
  have hne : ∀ new items, items ≠ [] → putAll items new ≠ [] := by
    intro new
    induction new with
    | nil => exact fun items h => h
    | cons i new ih => exact fun items _ => ih _ (hput i items)
  constructor
  · intro h
    cases new with
    | nil => rfl
    | cons i new => exact absurd h (hne new _ (hput i []))
  · rintro rfl
    rfl

theorem Event.items_after (e : Event) (hc : c < e.before.contexts.length)
    (hclear : e.op ≠ .onContext c .clearItems) :
    (e.after.context c).items = putAll (e.before.context c).items (kept c [e]) := by
  rw [e.context_after hc]
  obtain ⟨mine, op, w⟩ := e
  cases op with
  | onContext c' s =>
    by_cases h : c' = c
    · subst h
      simp only [Op.actOn, if_pos, step_itemsAfter]
      cases s with
      | clearItems => exact absurd rfl hclear
      | putItem key value => simp [kept, Event.puts?, putAll, ContextStep.itemsAfter]
      | _ => rfl
    · have hnone : Event.puts? c ⟨mine, .onContext c' s, w⟩ = none := by
        cases s with
        | putItem key value => exact if_neg h
        | _ => rfl
      simp only [Op.actOn, if_neg h, kept, List.filterMap_cons, hnone, List.filterMap_nil]
      rfl
  | scopeOf c' =>
    show (if _ then _ else _ : Context).items = _
    split <;> rfl
  | _ => rfl

/-- As long as they are not let go, the items of a context grow by those that are put. -/
theorem Leads.items_after (h : Leads w es w') (hc : c < w.contexts.length)
    (hclear : ∀ e ∈ es, e.op ≠ .onContext c .clearItems) :
    (w'.context c).items = putAll (w.context c).items (kept c es) := by
  induction es generalizing w with
  | nil =>
    cases h
    rfl
  | cons e es ih =>
    obtain ⟨rfl, h⟩ := h
    have hkept : kept c (e :: es) = kept c [e] ++ kept c es := List.filterMap_append (l := [e])
    rw [ih h (lt_of_lt_of_le hc e.length_le) fun x hx => hclear x (List.mem_cons_of_mem _ hx),
      e.items_after hc (hclear e (List.mem_cons_self ..)), hkept]
    exact (List.foldl_append ..).symm

/-! ## Facts -/

/-- No step changes what is fixed for an invocation. -/
theorem step_facts (s : ContextStep) (x : Context) : (s.perform x).2.facts = x.facts := by
  have hmove : ∀ sources target, (x.move sources target).2.facts = x.facts := by
    intro sources target
    rcases move_cases sources target x with hx | ⟨-, hx⟩ <;> rw [hx]
  cases s with
  | begin | complete | fault => exact hmove _ _
  | markDisposed =>
    show x.markDisposed.2.facts = x.facts
    rw [markDisposed_eq]
  | _ => rfl

theorem Leads.facts (h : Leads w es w') (hc : c < w.contexts.length) :
    c < w'.contexts.length ∧ (w'.context c).facts = (w.context c).facts := by
  refine h.keeps (P := fun v => c < v.contexts.length ∧ (v.context c).facts = (w.context c).facts) ?_ ⟨hc, rfl⟩
  intro e _ ⟨hlen, hfacts⟩
  refine ⟨hlen.trans_le e.length_le, ?_⟩
  rw [e.context_after hlen]
  refine actOn_keeps (Q := fun x => x.facts = (w.context c).facts) (fun s _ => ?_) (fun _ _ _ => hfacts) hfacts
  rw [step_facts, hfacts]

/-! ## Trace attributes -/

/-- The trace attribute that a step adds. -/
def ContextStep.attribute? : ContextStep → Option (String × String)
  | .addAttribute name value => some (name, value)
  | _ => none

/-- The trace attributes that events add to a context, in order. -/
def added (c : ContextId) (es : List Event) : List (String × String) :=
  es.filterMap fun e =>
    match e.op with
    | .onContext c' s => if c' = c then s.attribute? else none
    | _ => none

theorem added_append (c : ContextId) (es₁ es₂ : List Event) :
    added c (es₁ ++ es₂) = added c es₁ ++ added c es₂ := List.filterMap_append

theorem step_attributes (s : ContextStep) (x : Context) :
    (s.perform x).2.attributes = x.attributes ++ s.attribute?.toList := by
  have hmove : ∀ sources target, (x.move sources target).2.attributes = x.attributes ++ [] := by
    intro sources target
    rw [List.append_nil]
    rcases move_cases sources target x with hx | ⟨-, hx⟩ <;> rw [hx]
  cases s with
  | begin | complete | fault => exact hmove _ _
  | markDisposed =>
    exact (congrArg Context.attributes (markDisposed_eq x)).trans (List.append_nil _).symm
  | addAttribute name value => rfl
  | _ => exact (List.append_nil _).symm

theorem Event.attributes (e : Event) (hc : c < e.before.contexts.length) :
    (e.after.context c).attributes = (e.before.context c).attributes ++ added c [e] := by
  rw [e.context_after hc]
  obtain ⟨mine, op, w⟩ := e
  cases op with
  | onContext c' s =>
    by_cases h : c' = c
    · simp only [Op.actOn, added, List.filterMap_cons, if_pos h, step_attributes]
      cases s.attribute? <;> rfl
    · simp only [Op.actOn, added, List.filterMap_cons, if_neg h, List.filterMap_nil, List.append_nil]
  | scopeOf c' =>
    simp only [Op.actOn, added, List.filterMap_cons, List.filterMap_nil, List.append_nil]
    split <;> rfl
  | _ => exact (List.append_nil _).symm

theorem Leads.attributes (h : Leads w es w') (hc : c < w.contexts.length) :
    (w'.context c).attributes = (w.context c).attributes ++ added c es := by
  induction es generalizing w with
  | nil =>
    cases h
    exact (List.append_nil _).symm
  | cons e es ih =>
    obtain ⟨rfl, h⟩ := h
    have hlen : c < e.after.contexts.length := lt_of_lt_of_le hc e.length_le
    rw [ih h hlen, e.attributes hc, List.append_assoc, ← added_append, List.singleton_append]

end FunctionWorker
