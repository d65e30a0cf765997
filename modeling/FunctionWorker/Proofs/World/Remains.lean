/-
What is left of a context when it has been disposed of and all calls on it are over. A call that looked at the
context before it was marked may act on it at any time later: as long as its scope has not been taken and
its items have not been let go, what the call brings about goes with the rest, and from then on it stays.
-/
import FunctionWorker.Proofs.World.Calls
import FunctionWorker.Proofs.World.History

namespace FunctionWorker

variable {w w' : World} {c : ContextId} {es : List Event} {ss S : List ScopeId} {history : List Deed} {t : Nat}
  {op : Op}

/-! ## What is left -/

/-- Other tasks free nothing that belongs to a context with the scopes `S`. They may mark it when that has
been done already. -/
def Undisturbed (c : ContextId) (S : List ScopeId) (es : List Event) : Prop :=
  ∀ e ∈ es, e.mine = false → Frees c S e.op →
    e.op = .onContext c .markDisposed ∧ (e.before.context c).state = .disposed

/-- What the task itself does not do is not done at all. -/
theorem Undisturbed.never {part : List Event} (h : Undisturbed c S es) (hsub : part ⊆ es)
    (hown : Own (· ≠ op) part) (hfrees : Frees c S op) (hop : op ≠ .onContext c .markDisposed) :
    ∀ e ∈ part, e.op ≠ op := by
  intro e he
  cases hm : e.mine with
  | true => exact hown e he hm
  | false =>
    rintro rfl
    exact absurd (h e (hsub he) hm hfrees).1 hop

/-- What is left of a context that had the scopes `ss` at first and was in use from then on. Its scope was
taken after the events `before` and `between`, and its items were let go after `closing`. -/
structure Remains (c : ContextId) (ss : List ScopeId) (before between closing after : List Event) (w : World) :
    Prop where
  /-- There was at most one scope to be taken, and it has been disposed of once. -/
  one : (ss ++ opened c (before ++ between)).length ≤ 1
  once : ∀ s ∈ ss ++ opened c (before ++ between), w.disposals? s = some 1
  /-- At most one scope was opened after that, and it is never disposed of. -/
  lateOne : (opened c (closing ++ after)).length ≤ 1
  never : ∀ s ∈ opened c (closing ++ after), w.disposals? s = some 0
  opens : (∃ e ∈ closing ++ after, e.op = .scopeOf c) → opened c (closing ++ after) ≠ []
  /-- The items are those that were put after they had been let go. -/
  items : (w.context c).items = putAll [] (kept c after)

theorem toList_length_le {α : Type} (o : Option α) : o.toList.length ≤ 1 := by
  cases o with
  | none => exact Nat.zero_le _
  | some a => exact le_rfl

/-- A step on a context opens no scope. -/
theorem opened_step (c c' : ContextId) (step : ContextStep) (mine : Bool) (x : World) (es₁ es₂ : List Event) :
    opened c (es₁ ++ ⟨mine, .onContext c' step, x⟩ :: es₂) = opened c (es₁ ++ es₂) := by
  rw [opened_append, opened_append]
  rfl

/-- Scopes that are opened have other numbers than those before. -/
theorem Leads.opened_new {s : ScopeId} {n : Nat} (h : Leads w es w') (hn : w.disposals? s = some n) :
    s ∉ opened c es := by
  intro hs
  obtain ⟨sc, hsc, -⟩ := Option.map_eq_some_iff.1 hn
  have hlt := (List.getElem?_eq_some_iff.1 hsc).1
  obtain ⟨e, he, hopens⟩ := List.mem_filterMap.1 hs
  obtain ⟨-, -, heq⟩ := e.opens_inv hopens
  obtain ⟨es₁, es₂, rfl⟩ := List.append_of_mem he
  obtain ⟨v, hleads, rfl, -⟩ := leads_append.1 h
  have hle := scopes_grow.leads hleads
  rw [heq] at hlt
  exact absurd hle (Nat.not_le_of_gt hlt)

/-- The scope that was taken is disposed of. -/
theorem Lets.disposals {s : ScopeId} (h : Lets (some s) es) (hleads : Leads w es w')
    (hes : ∀ part ⊆ es, Others part → ∀ e ∈ part, e.op ≠ .disposeScope s) (hn : w.disposals? s = some 0) :
    w'.disposals? s = some 1 := by
  obtain ⟨es₁, v, es₂, rfl, hothers₁, hothers₂⟩ := h
  obtain ⟨u, hleads₁, rfl, hleads₂⟩ := leads_append.1 hleads
  have hzero := hleads₁.disposals_keeps (hes es₁ (List.subset_append_left ..) hothers₁) hn
  refine hleads₂.disposals_keeps (hes es₂ (fun e he => ?_) hothers₂) (disposals_dispose hzero)
  exact List.mem_append_right _ (List.mem_cons_of_mem _ he)

/-! ## Before and after the taking of the scope -/

variable {front back before between closing after : List Event} {x y z : World}

theorem front_subset (ss : List ScopeId) (hes : es = front ++ ⟨true, .onContext c .takeScope, y⟩ :: back) :
    front ⊆ es ∧ ss ++ opened c front ⊆ ss ++ opened c es := by
  rw [hes, opened_append, ← List.append_assoc]
  exact ⟨List.subset_append_left .., List.subset_append_left ..⟩

theorem back_subset (ss : List ScopeId) (hes : es = front ++ ⟨true, .onContext c .takeScope, y⟩ :: back) :
    back ⊆ es ∧ opened c back ⊆ ss ++ opened c es := by
  rw [hes, opened_step, opened_append, ← List.append_assoc]
  refine ⟨fun e he => ?_, List.subset_append_right ..⟩
  exact List.mem_append_right _ (List.mem_cons_of_mem _ he)

/-- A context that has only been marked when its scope is taken: it is the one that was opened, and it has
not been disposed of. -/
theorem Holds.found (holds : Holds c ss w) (hleads : Leads w front y) (hothers : Undisturbed c (ss ++ opened c es) es)
    (hes : es = front ++ ⟨true, .onContext c .takeScope, y⟩ :: back)
    (hmarks : Own (· = .onContext c .markDisposed) front) :
    (y.context c).scope.toList = ss ++ opened c front ∧ ∀ s ∈ ss ++ opened c front, y.disposals? s = some 0 := by
  obtain ⟨hsub, hearly⟩ := front_subset ss hes
  refine holds.untaken hleads (hothers.never hsub (hmarks.imp ?_) .taken nofun)
    fun s hs => hothers.never hsub (hmarks.imp ?_) (.disposed (hearly hs)) nofun
  · rintro op rfl
    exact nofun
  · rintro op rfl
    exact nofun

/-- Whoever asks for the scope of a context that has none opens one. -/
theorem Leads.opened_ne_nil (h : Leads w es w') (hc : c < w.contexts.length) (hnone : (w.context c).scope = none)
    (htake : ∀ e ∈ es, e.op ≠ .onContext c .takeScope) (hasks : ∃ e ∈ es, e.op = .scopeOf c) : opened c es ≠ [] := by
  obtain ⟨e, he, hop⟩ := hasks
  intro hnil
  obtain ⟨es₁, es₂, rfl⟩ := List.append_of_mem he
  rw [opened_append, List.append_eq_nil_iff] at hnil
  obtain ⟨v, hleads, rfl, -⟩ := leads_append.1 h
  have hslot := hleads.scope_after hc fun x hx => htake x (List.mem_append_left _ hx)
  rw [hnone, hnil.1, Option.toList_none, List.append_nil, Option.toList_eq_nil_iff] at hslot
  have hopens : e.opens? c = some e.before.services.scopes.length := by
    unfold Event.opens?
    rw [hop]
    exact if_pos ⟨rfl, hslot⟩
  have hmem : e.before.services.scopes.length ∈ opened c (e :: es₂) :=
    List.mem_filterMap.2 ⟨e, List.mem_cons_self .., hopens⟩
  rw [hnil.2] at hmem
  cases hmem

/-- When the scope of a context has been taken, one that is opened afterwards stays. -/
theorem late_scopes (hleads : Leads (World.perform (.onContext c .takeScope) y).2 back w')
    (hpresent : c < y.contexts.length) (hothers : Undisturbed c (ss ++ opened c es) es)
    (hes : es = front ++ ⟨true, .onContext c .takeScope, y⟩ :: back)
    (hlets : Own (fun op => op = .onContext c .clearItems ∨
      ∃ s, (y.context c).scope = some s ∧ op = .disposeScope s) back)
    (hfound : ∀ s, (y.context c).scope = some s → y.disposals? s = some 0) :
    (opened c back).length ≤ 1 ∧ (∀ s ∈ opened c back, w'.disposals? s = some 0) ∧
      ((∃ e ∈ back, e.op = .scopeOf c) → opened c back ≠ []) := by
  obtain ⟨hsub, hlate⟩ := back_subset ss hes
  have hpresent' := lt_of_lt_of_le hpresent (length_le_perform (.onContext c .takeScope) y)
  have htake : ∀ e ∈ back, e.op ≠ .onContext c .takeScope := by
    refine hothers.never hsub (hlets.imp ?_) .taken nofun
    rintro op (rfl | ⟨s, -, rfl⟩)
    · exact nofun
    · exact nofun
  refine ⟨?_, fun s hs => ?_, hleads.opened_ne_nil hpresent' (scope_taken hpresent) htake⟩
  · have hlast := hleads.scope_after hpresent' htake
    rw [scope_taken hpresent, Option.toList_none, List.nil_append] at hlast
    rw [← hlast]
    exact toList_length_le _
  · -- what the call disposes of is the scope that was taken
    refine hleads.disposals_opened hs (hothers.never hsub (hlets.imp ?_) (.disposed (hlate hs)) nofun)
    rintro op (rfl | ⟨s', hs', rfl⟩)
    · exact nofun
    · rintro heq
      cases heq
      exact hleads.opened_new (disposals_perform nofun (hfound s hs')) hs

/-- The steps of a disposal open no scope. -/
theorem opened_cut (hes : es = before ++ ⟨true, .onContext c .markDisposed, x⟩ ::
      (between ++ ⟨true, .onContext c .takeScope, y⟩ :: (closing ++ ⟨true, .onContext c .clearItems, z⟩ :: after))) :
    opened c es = opened c (before ++ between) ++ opened c (closing ++ after) := by
  rw [hes, opened_step, ← List.append_assoc, opened_step, ← List.append_assoc, opened_step, ← opened_append,
    List.append_assoc (before ++ between)]

/-- What others do after a call that disposes of a context. -/
theorem Cut.append {later : List Event} (h : Cut c es before between closing after x y z) (hlater : Others later) :
    Cut c (es ++ later) before between closing (after ++ later) x y z := by
  refine ⟨?_, h.live, h.before, h.between, h.lets, h.after.append hlater⟩
  rw [h.events]
  simp only [List.append_assoc, List.cons_append]

/-- Of what a call that disposes of a context finds, nothing is left; what comes later stays. -/
theorem Cut.remains (h : Cut c es before between closing after x y z) (holds : Holds c ss w)
    (hleads : Leads w es w') (hothers : Undisturbed c (ss ++ opened c es) es) :
    Remains c ss before between closing after w' := by
  obtain ⟨hes, -, hbefore, hbetween, hlets, hafter⟩ := h
  have hes : es = (before ++ ⟨true, .onContext c .markDisposed, x⟩ :: between) ++
      ⟨true, .onContext c .takeScope, y⟩ :: (closing ++ ⟨true, .onContext c .clearItems, z⟩ :: after) := by
    rw [hes, List.append_assoc, List.cons_append]
  have hsub := (back_subset ss hes).1
  have hsubs : closing ⊆ es ∧ after ⊆ es :=
    ⟨fun e he => hsub (by simp [he]), fun e he => hsub (by simp [he])⟩
  -- the worlds in which the scope is taken and the items are let go
  obtain ⟨v, hleads₁, hv, hleads₂⟩ := leads_append.1 (hes ▸ hleads)
  obtain rfl : y = v := hv
  obtain ⟨v, hleads₃, hv, hleads₄⟩ := leads_append.1 hleads₂
  obtain rfl : z = v := hv
  have hpresent : c < y.contexts.length := lt_of_lt_of_le holds.present (contexts_grow.leads hleads₁)
  have hpresent' : c < z.contexts.length :=
    lt_of_lt_of_le (lt_of_lt_of_le hpresent (length_le_perform _ _)) (contexts_grow.leads hleads₃)
  obtain ⟨hslot, hfound⟩ := holds.found hleads₁ hothers hes (hbefore.own.append (hbetween.own.cons rfl))
  have hearly := (front_subset ss hes).2
  have hscope : ∀ s, (y.context c).scope = some s ↔ s ∈ ss ++ opened c (before ++ between) := by
    intro s
    rw [← opened_step c c .markDisposed true x, ← hslot, Option.mem_toList]
  obtain ⟨hlateOne, hnever, hopens⟩ := late_scopes hleads₂ hpresent hothers hes
    ((hlets.own.imp fun op => Or.inr).append (hafter.own.cons (.inl rfl)))
    fun s hs => hfound s (hslot ▸ Option.mem_toList.2 hs)
  rw [opened_step] at hslot hfound hearly hlateOne hnever hopens
  refine ⟨?_, fun s hs => ?_, hlateOne, hnever, fun hasks => hopens ?_, ?_⟩
  · rw [← hslot]
    exact toList_length_le _
  · -- one disposal, since nobody else disposes of what is taken
    have hspared : ∀ part ⊆ es, Others part → ∀ e ∈ part, e.op ≠ .disposeScope s := fun part hpart hall =>
      hothers.never hpart hall.own (.disposed (hearly hs)) nofun
    rw [(hscope s).2 hs] at hlets
    have hone := hlets.disposals hleads₃ (fun part hpart => hspared part fun e he => hsubs.1 (hpart he))
      (disposals_perform nofun (hfound s hs))
    exact hleads₄.disposals_keeps (hspared after hsubs.2 hafter) (disposals_perform nofun hone)
  · obtain ⟨e, he, hop⟩ := hasks
    refine ⟨e, ?_, hop⟩
    rcases List.mem_append.1 he with he | he
    · exact List.mem_append_left _ he
    · exact List.mem_append_right _ (List.mem_cons_of_mem _ he)
  · rw [hleads₄.items_after (lt_of_lt_of_le hpresent' (length_le_perform _ _))
      (hothers.never hsubs.2 hafter.own .cleared nofun)]
    exact congrArg (putAll · _) (items_cleared hpresent')

/-! ## Nothing is left -/

/-- Nothing is left of a context for which the scopes `S` were opened. -/
structure Emptied (c : ContextId) (S : List ScopeId) (w : World) : Prop where
  scopes : ∀ s ∈ S, w.disposals? s = some 1
  items : (w.context c).items = []

/-- No call acts too late: the scope is not asked for when it has been taken, and no item is put when they
have been let go. -/
structure Timely (c : ContextId) (closing after : List Event) : Prop where
  scopes : ∀ e ∈ closing ++ after, e.op ≠ .scopeOf c
  items : ∀ e ∈ after, ∀ key value, e.op ≠ .onContext c (.putItem key value)

theorem Event.puts_inv {e : Event} {i : String × Datum} (h : e.puts? c = some i) :
    e.op = .onContext c (.putItem i.1 i.2) := by
  unfold Event.puts? at h
  split at h
  · rename_i c' key value hop
    split at h
    · rename_i hc
      subst hc
      cases h
      exact hop
    · cases h
  · cases h

theorem kept_eq_nil_iff : kept c es = [] ↔ ∀ e ∈ es, ∀ key value, e.op ≠ .onContext c (.putItem key value) := by
  unfold kept
  rw [List.filterMap_eq_nil_iff]
  constructor
  · intro h e he key value hop
    have hnone := h e he
    unfold Event.puts? at hnone
    rw [hop] at hnone
    dsimp only at hnone
    rw [if_pos rfl] at hnone
    cases hnone
  · intro h e he
    cases hputs : e.puts? c with
    | none => rfl
    | some i => exact absurd (e.puts_inv hputs) (h e he _ _)

/-- A scope that was opened before a time from which on things are told. -/
theorem Remains.since (h : Remains c (ss ++ opened c front) before between closing after w) :
    Remains c ss (front ++ before) between closing after w := by
  have hopened : ss ++ opened c (front ++ before ++ between) = ss ++ opened c front ++ opened c (before ++ between) := by
    rw [List.append_assoc front, opened_append c front, List.append_assoc]
  constructor
  case one => exact hopened ▸ h.one
  case once => exact hopened ▸ h.once
  case lateOne => exact h.lateOne
  case never => exact h.never
  case opens => exact h.opens
  case items => exact h.items

/-- Nothing is left exactly if no call acted too late. -/
theorem Remains.emptied_iff (h : Remains c ss before between closing after w) :
    Emptied c (ss ++ opened c (before ++ between) ++ opened c (closing ++ after)) w ↔ Timely c closing after := by
  constructor
  · rintro ⟨hscopes, hitems⟩
    constructor
    · intro e he hop
      obtain ⟨s, hs⟩ := List.exists_mem_of_ne_nil _ (h.opens ⟨e, he, hop⟩)
      have hone := hscopes s (List.mem_append_right _ hs)
      rw [h.never s hs] at hone
      cases hone
    · rw [h.items, putAll_eq_nil] at hitems
      exact kept_eq_nil_iff.1 hitems
  · rintro ⟨hscopes, hitems⟩
    rw [opened_eq_nil hscopes, List.append_nil]
    refine ⟨h.once, ?_⟩
    rw [h.items, putAll_eq_nil]
    exact kept_eq_nil_iff.2 hitems

/-! ## All calls together -/

/-- What is done about a context after it has been marked is done when it is disposed of. -/
theorem Leads.disposed_after {m : Bool} {es₁ es₂ : List Event}
    (h : Leads w (es₁ ++ ⟨m, .onContext c .markDisposed, x⟩ :: es₂) w') (hc : c < w.contexts.length) :
    ∀ e ∈ es₂, (e.before.context c).state = .disposed := by
  obtain ⟨v, hbefore, hv, hafter⟩ := leads_append.1 h
  obtain rfl : x = v := hv
  have hclosed := closed_marked (lt_of_lt_of_le hc (contexts_grow.leads hbefore))
  intro e he
  exact (hafter.holds_before (fun _ _ => Closed.event) hclosed e he).state

/-- Of two tasks that mark a context only one finds it in use. -/
theorem marked_once {u : World} (h : Leads w es w') (hc : c < w.contexts.length)
    (hx : ⟨true, .onContext c .markDisposed, x⟩ ∈ es) (hlive : (x.context c).state ≠ .disposed)
    (hu : ⟨false, .onContext c .markDisposed, u⟩ ∈ es) : (u.context c).state = .disposed := by
  obtain ⟨es₁, es₂, rfl⟩ := List.append_of_mem hx
  rcases List.mem_append.1 hu with hu | hu
  · obtain ⟨es₃, es₄, rfl⟩ := List.append_of_mem hu
    rw [List.append_assoc, List.cons_append] at h
    exact absurd (h.disposed_after hc _ (List.mem_append_right _ (List.mem_cons_self ..))) hlive
  · rcases List.mem_cons.1 hu with heq | hu
    · cases heq
    · exact h.disposed_after hc _ hu

/-- When one task has disposed of a context, the others leave it undisturbed. -/
theorem undisturbed (hleads : Leads w (view t history) w') (hc : c < w.contexts.length)
    (calls : ∀ t, CallsOn c S w (view t history) w') (hx : ⟨true, .onContext c .markDisposed, x⟩ ∈ view t history)
    (hlive : (x.context c).state ≠ .disposed) : Undisturbed c S (view t history) := by
  rintro ⟨mine, op, u⟩ he hm hfrees
  cases hm
  obtain ⟨t', ht, hown⟩ := view_task he
  rcases (calls t').frees hown hfrees with hagain | ⟨x', hx', hlive'⟩
  · exact hagain
  · exact absurd (marked_once hleads hc hx hlive (view_others hx' ht)) hlive'

/-- What comes of the calls on a context that the call of the task `t` has disposed of. -/
structure Settled (c : ContextId) (ss : List ScopeId) (t : Nat) (history before between closing after : List Deed)
    (w w' : World) : Prop where
  remains : Remains c ss (view t before) (view t between) (view t closing) (view t after) w'
  emptied : Emptied c (ss ++ opened c (view t history)) w' ↔ Timely c (view t closing) (view t after)
  /-- Whoever acts on the context, early or late, has looked at it before it was marked. -/
  guarded : ∀ d ∈ history, ∀ look, d.op.guard? c = some look →
    ∃ g ∈ before, g.task = d.task ∧ g.op = .onContext c look
  /-- No other call has disposed of it. -/
  alone : ∀ t' ≠ t, ∀ r, Job.Run (Job.dispose c) w (view t' history) r w' → r = .ok false

/-- The disposal of a context cuts the history of all calls on it into four parts. -/
theorem Cut.history_eq {es₁ es₂ es₃ es₄ : List Event} (h : Cut c (view t history) es₁ es₂ es₃ es₄ x y z) :
    ∃ before between closing after, view t before = es₁ ∧ view t between = es₂ ∧ view t closing = es₃ ∧
      view t after = es₄ ∧
      history = before ++ ⟨t, .onContext c .markDisposed, x⟩ :: (between ++ ⟨t, .onContext c .takeScope, y⟩ ::
        (closing ++ ⟨t, .onContext c .clearItems, z⟩ :: after)) := by
  obtain ⟨before, rest, rfl, hbefore, hrest⟩ := List.map_eq_append_iff.1 h.events
  obtain ⟨d₁, rest, rfl, hd₁, hrest⟩ := List.map_eq_cons_iff.1 hrest
  obtain ⟨between, rest, rfl, hbetween, hrest⟩ := List.map_eq_append_iff.1 hrest
  obtain ⟨d₂, rest, rfl, hd₂, hrest⟩ := List.map_eq_cons_iff.1 hrest
  obtain ⟨closing, rest, rfl, hclosing, hrest⟩ := List.map_eq_append_iff.1 hrest
  obtain ⟨d₃, after, rfl, hd₃, hafter⟩ := List.map_eq_cons_iff.1 hrest
  exact ⟨before, between, closing, after, hbefore, hbetween, hclosing, hafter,
    by rw [deed_eq hd₁, deed_eq hd₂, deed_eq hd₃]⟩

/-- Whatever calls are made on a context, through however many clones and in whatever order their steps come:
when one has disposed of it and all others are over, what is left is what came after the scope had been taken
and the items had been let go, and every call that brought it about had looked at the context before it was
marked. -/
theorem dispose_settles (holds : Holds c ss w)
    (calls : ∀ t, CallsOn c (ss ++ opened c (view t history)) w (view t history) w')
    (disposed : Job.Run (Job.dispose c) w (view t history) (.ok true) w') :
    ∃ before between closing after x y z,
      history = before ++ ⟨t, .onContext c .markDisposed, x⟩ :: (between ++ ⟨t, .onContext c .takeScope, y⟩ ::
        (closing ++ ⟨t, .onContext c .clearItems, z⟩ :: after)) ∧
      Settled c ss t history before between closing after w w' := by
  have hleads := disposed.leads
  rcases dispose_cases disposed with ⟨hfalse, -⟩ | ⟨-, es₁, es₂, es₃, es₄, x, y, z, hcut⟩
  · cases hfalse
  have hquiet : Undisturbed c (ss ++ opened c (view t history)) (view t history) := by
    refine undisturbed hleads holds.present (fun t' => ?_) hcut.marked hcut.live
    rw [opened_view c t t']
    exact calls t'
  have hremains := hcut.remains holds hleads hquiet
  have hopened := opened_cut hcut.events
  obtain ⟨before, between, closing, after, rfl, rfl, rfl, rfl, hhistory⟩ := hcut.history_eq
  refine ⟨before, between, closing, after, x, y, z, hhistory, hremains, ?_, fun d hd look hguard => ?_,
    fun t' ht r run => ?_⟩
  · rw [hopened, ← List.append_assoc]
    exact hremains.emptied_iff
  · obtain ⟨u, hlook, hlive⟩ := (calls d.task).looked (mem_view.2 hd) hguard
    refine ⟨⟨d.task, .onContext c look, u⟩, ?_, rfl, rfl⟩
    have hg := mem_view.1 hlook
    rw [hhistory] at hg
    rcases List.mem_append.1 hg with hg | hg
    · exact hg
    rcases List.mem_cons.1 hg with heq | hg
    · obtain rfl | rfl := Op.guard_inv hguard <;> cases heq
    · -- a look after the marking finds the context disposed of
      rw [hhistory] at hleads
      unfold view at hleads
      rw [List.map_append, List.map_cons] at hleads
      exact absurd (hleads.disposed_after holds.present _ (List.mem_map_of_mem hg)) hlive
  · rcases dispose_cases run with ⟨hfalse, -⟩ | ⟨-, es₁, es₂, es₃, es₄, x', y', z', hcut'⟩
    · exact hfalse
    · have hlive := marked_once hleads holds.present hcut.marked hcut.live (view_others hcut'.marked ht)
      exact absurd hlive hcut'.live

/-! ## Two schedules -/

/-- Operations that tasks carry out one after another. -/
def enacted : World → List (Nat × Op) → List Deed
  | _, [] => []
  | w, (t, op) :: rest => ⟨t, op, w⟩ :: enacted (World.perform op w).2 rest

def outcome (w : World) (ops : List (Nat × Op)) : World := ops.foldl (fun w x => (World.perform x.2 w).2) w

theorem leads_enacted (t : Nat) : ∀ (w : World) (ops : List (Nat × Op)),
    Leads w (view t (enacted w ops)) (outcome w ops)
  | _, [] => rfl
  | _, _ :: ops => ⟨rfl, leads_enacted t _ ops⟩

instance : DecidablePred Others := fun es => inferInstanceAs (Decidable (∀ e ∈ es, e.mine = false))

/-- A job carries out its next operation after `n` events of others. -/
theorem Job.run_turn {α : Type} {f : op.Reply → Job α} {r : Except Panic α} {rest : List Event} (n : Nat)
    (hleads : Leads w es w') (hothers : Others (es.take n)) (hnext : es.drop n = ⟨true, op, x⟩ :: rest)
    (hrest : Leads (World.perform op x).2 rest w' →
      Job.Run (f (World.perform op x).1) (World.perform op x).2 rest r w') :
    Job.Run (Job.op op >>= f) w es r w' := by
  rw [← List.take_append_drop n es, hnext] at hleads
  obtain ⟨v, hbefore, hv, hafter⟩ := leads_append.1 hleads
  obtain rfl : x = v := hv
  refine ⟨es.take n ++ [⟨true, op, x⟩], rest, _, _, ?_, ⟨es.take n, x, rfl, hothers, hbefore, rfl, rfl⟩, hrest hafter⟩
  rw [List.append_assoc, List.singleton_append, ← hnext, List.take_append_drop]

theorem others_of_tasks {n : Nat} (h : ∀ d ∈ history, d.task < n) (hn : n ≤ t) : Others (view t history) := by
  intro e he
  obtain ⟨d, hd, rfl⟩ := List.mem_map.1 he
  have hlt := h d hd
  exact beq_false_of_ne (by omega)

/-- One task disposes of a context, one asks for its scope and one sets an item; there are no others. -/
theorem calls_of_three {a : Except Panic Bool} {b : Except Panic (Except ContextError ScopeId)}
    {d : Except Panic (Except ContextError Unit)} {key : String} {value : Datum}
    (disposes : Job.Run (Job.dispose c) w (view 0 history) a w')
    (opens : Job.Run (Job.openServices c) w (view 1 history) b w')
    (sets : Job.Run (Job.setItem c key value) w (view 2 history) d w') (h : ∀ d ∈ history, d.task < 3) :
    ∀ t, CallsOn c S w (view t history) w'
  | 0 => .disposes disposes
  | 1 => .opens opens
  | 2 => .sets sets
  | t + 3 => .elsewhere (others_of_tasks h (by omega)).own

/-- A world with one context, which is executing and has no scope. -/
def inUse : World where
  contexts := [{ facts := default, state := .executing }]

theorem inUse_holds : Holds 0 [] inUse where
  present := by decide
  live := by decide
  slot := rfl
  fresh := fun s hs => absurd hs List.not_mem_nil

/-- One task disposes of the context. Two others have looked at it before that; one asks for its scope just
before it is taken, and one puts an item just before they are let go. -/
def closeCalls : List (Nat × Op) :=
  [(1, .onContext 0 .state), (2, .onContext 0 .checkExecuting), (0, .onContext 0 .markDisposed), (1, .scopeOf 0),
    (0, .onContext 0 .takeScope), (0, .disposeScope 0), (2, .onContext 0 (.putItem "step" (.text "1"))),
    (0, .onContext 0 .clearItems)]

theorem dispose_settles_closeCalls :
    Holds 0 [] inUse ∧
      (∀ t, CallsOn 0 (opened 0 (view t (enacted inUse closeCalls))) inUse (view t (enacted inUse closeCalls))
        (outcome inUse closeCalls)) ∧
      Job.Run (Job.dispose 0) inUse (view 0 (enacted inUse closeCalls)) (.ok true) (outcome inUse closeCalls) ∧
      (∃ before between closing after,
        Settled 0 [] 0 (enacted inUse closeCalls) before between closing after inUse (outcome inUse closeCalls)) ∧
      opened 0 (view 0 (enacted inUse closeCalls)) = [0] ∧ Emptied 0 [0] (outcome inUse closeCalls) := by
  have hleads := fun t => leads_enacted t inUse closeCalls
  have hdisposes : Job.Run (Job.dispose 0) inUse (view 0 (enacted inUse closeCalls)) (.ok true)
      (outcome inUse closeCalls) :=
    Job.run_turn 2 (hleads 0) (by decide) rfl fun hleads =>
      Job.run_turn 1 hleads (by decide) rfl fun hleads =>
        Job.run_turn 0 hleads (by decide) rfl fun hleads =>
          Job.run_turn 1 hleads (by decide) rfl fun hleads => ⟨by decide, hleads, rfl⟩
  have hopens : Job.Run (Job.openServices 0) inUse (view 1 (enacted inUse closeCalls)) (.ok (.ok 0))
      (outcome inUse closeCalls) :=
    Job.run_turn 0 (hleads 1) (by decide) rfl fun hleads =>
      Job.run_turn 2 hleads (by decide) rfl fun hleads => ⟨by decide, hleads, rfl⟩
  have hsets : Job.Run (Job.setItem 0 "step" (.text "1")) inUse (view 2 (enacted inUse closeCalls)) (.ok (.ok ()))
      (outcome inUse closeCalls) :=
    Job.run_turn 1 (hleads 2) (by decide) rfl fun hleads =>
      Job.run_turn 4 hleads (by decide) rfl fun hleads => ⟨by decide, hleads, rfl⟩
  have calls := fun S => calls_of_three (S := S) hdisposes hopens hsets (by decide)
  obtain ⟨before, between, closing, after, x, y, z, -, hsettled⟩ :=
    dispose_settles inUse_holds (fun t => calls _ t) hdisposes
  exact ⟨inUse_holds, fun t => calls _ t, hdisposes, ⟨before, between, closing, after, hsettled⟩, rfl,
    by decide, rfl⟩

/-- The same calls, only that the scope is asked for when it has just been taken, and the item is put when
they have just been let go. -/
def lateCalls : List (Nat × Op) :=
  [(1, .onContext 0 .state), (2, .onContext 0 .checkExecuting), (0, .onContext 0 .markDisposed),
    (0, .onContext 0 .takeScope), (1, .scopeOf 0), (0, .onContext 0 .clearItems),
    (2, .onContext 0 (.putItem "step" (.text "1")))]

/-- All calls are over and the context is disposed of, but its scope is not, and an item is there. -/
theorem dispose_misses :
    Holds 0 [] inUse ∧
      (∀ t, CallsOn 0 (opened 0 (view t (enacted inUse lateCalls))) inUse (view t (enacted inUse lateCalls))
        (outcome inUse lateCalls)) ∧
      Job.Run (Job.dispose 0) inUse (view 0 (enacted inUse lateCalls)) (.ok true) (outcome inUse lateCalls) ∧
      opened 0 (view 0 (enacted inUse lateCalls)) = [0] ∧ ¬ Emptied 0 [0] (outcome inUse lateCalls) ∧
      (outcome inUse lateCalls).disposals? 0 = some 0 ∧
      ((outcome inUse lateCalls).context 0).items = [("step", .text "1")] := by
  have hleads := fun t => leads_enacted t inUse lateCalls
  have hdisposes : Job.Run (Job.dispose 0) inUse (view 0 (enacted inUse lateCalls)) (.ok true)
      (outcome inUse lateCalls) :=
    Job.run_turn 2 (hleads 0) (by decide) rfl fun hleads =>
      Job.run_turn 0 hleads (by decide) rfl fun hleads =>
        Job.run_turn 1 hleads (by decide) rfl fun hleads => ⟨by decide, hleads, rfl⟩
  have hopens : Job.Run (Job.openServices 0) inUse (view 1 (enacted inUse lateCalls)) (.ok (.ok 0))
      (outcome inUse lateCalls) :=
    Job.run_turn 0 (hleads 1) (by decide) rfl fun hleads =>
      Job.run_turn 3 hleads (by decide) rfl fun hleads => ⟨by decide, hleads, rfl⟩
  have hsets : Job.Run (Job.setItem 0 "step" (.text "1")) inUse (view 2 (enacted inUse lateCalls)) (.ok (.ok ()))
      (outcome inUse lateCalls) :=
    Job.run_turn 1 (hleads 2) (by decide) rfl fun hleads =>
      Job.run_turn 4 hleads (by decide) rfl fun hleads => ⟨by decide, hleads, rfl⟩
  refine ⟨inUse_holds, fun t => calls_of_three hdisposes hopens hsets (by decide) t, hdisposes, rfl,
    fun hemptied => ?_, by decide, rfl⟩
  cases hemptied.items

end FunctionWorker
