/-
Calls on a context, step by step. A call that acts on a context looks at it first and acts in another step,
unless it was refused; a call that disposes of it marks it, takes its scope, disposes of that and lets the
items go.
-/
import FunctionWorker.Proofs.World.Disposal

namespace FunctionWorker

variable {w w' : World} {c : ContextId} {es : List Event} {S : List ScopeId} {op : Op} {look : ContextStep}

/-! ## Looking and acting -/

/-- The step with which a call looks at a context before it acts on it with an operation. -/
def Op.guard? (c : ContextId) : Op → Option ContextStep
  | .scopeOf c' => if c' = c then some .state else none
  | .onContext c' (.putItem _ _) => if c' = c then some .checkExecuting else none
  | _ => none

theorem guard_scopeOf (c : ContextId) : (Op.scopeOf c).guard? c = some .state := if_pos rfl

theorem guard_putItem (c : ContextId) (key : String) (value : Datum) :
    (Op.onContext c (.putItem key value)).guard? c = some .checkExecuting := if_pos rfl

theorem Op.guard_inv (h : op.guard? c = some look) : look = .state ∨ look = .checkExecuting := by
  unfold Op.guard? at h
  split at h
  · split at h <;> cases h
    exact .inl rfl
  · split at h <;> cases h
    exact .inr rfl
  · cases h

/-- A call that looks at a context is refused, or it acts on a context that was not disposed of when it
looked. -/
theorem look_inv {α : Type} {act : Op} {f : look.Reply → Job α} {r : Except Panic α}
    (run : Job.Run (Job.onContext c look >>= f) w es r w')
    (hrefuses : ∀ x : World, (x.context c).state = .disposed →
      ∃ b, f (look.perform (x.context c)).1 = .done b)
    (hacts : ∀ a, (∃ b, f a = .done b) ∨ ∃ g : act.Reply → α, f a = Job.op act >>= fun a => .done (g a)) :
    Own (· = .onContext c look) es ∨
      (∃ x, ⟨true, .onContext c look, x⟩ ∈ es ∧ (x.context c).state ≠ .disposed) ∧
        Own (fun op => op = .onContext c look ∨ op = act) es := by
  obtain ⟨es₁, es₂, a, v, rfl, hlook, hrest⟩ := Job.Run.op_inv run
  obtain ⟨es₀, x, rfl, hothers, hleads, rfl, rfl⟩ := id hlook
  have hrefused : ∀ b, f (World.perform (.onContext c look) x).1 = .done b →
      Own (· = .onContext c look) (es₀ ++ [⟨true, .onContext c look, x⟩] ++ es₂) := by
    intro b hb
    rw [hb] at hrest
    exact (hlook.own (P := (· = .onContext c look)) rfl).append hrest.1.own
  rcases hacts (World.perform (.onContext c look) x).1 with ⟨b, hb⟩ | ⟨g, hg⟩
  · exact .inl (hrefused b hb)
  · -- a call that would go on, had the context not been disposed of
    by_cases hx : (x.context c).state = .disposed
    · obtain ⟨b, hb⟩ := hrefuses x hx
      exact .inl (hrefused b hb)
    · rw [hg] at hrest
      obtain ⟨es₃, es₄, a, v, rfl, hact, hothers', -⟩ := Job.Run.op_inv hrest
      refine .inr ⟨⟨x, by simp, hx⟩, ?_⟩
      exact (hlook.own (.inl rfl)).append ((hact.own (.inr rfl)).append hothers'.own)

theorem openServices_inv {r : Except Panic (Except ContextError ScopeId)}
    (run : Job.Run (Job.openServices c) w es r w') :
    Own (· = .onContext c .state) es ∨
      (∃ x, ⟨true, .onContext c .state, x⟩ ∈ es ∧ (x.context c).state ≠ .disposed) ∧
        Own (fun op => op = .onContext c .state ∨ op = .scopeOf c) es := by
  refine look_inv run (fun x hx => ⟨_, if_pos hx⟩) fun a => ?_
  by_cases ha : a = ContextState.disposed
  · exact .inl ⟨_, if_pos ha⟩
  · exact .inr ⟨_, if_neg ha⟩

theorem setItem_inv {key : String} {value : Datum} {r : Except Panic (Except ContextError Unit)}
    (run : Job.Run (Job.setItem c key value) w es r w') :
    Own (· = .onContext c .checkExecuting) es ∨
      (∃ x, ⟨true, .onContext c .checkExecuting, x⟩ ∈ es ∧ (x.context c).state ≠ .disposed) ∧
        Own (fun op => op = .onContext c .checkExecuting ∨ op = .onContext c (.putItem key value)) es := by
  refine look_inv run (fun x hx => ?_) fun a => ?_
  · have hrefused : (ContextStep.checkExecuting.perform (x.context c)).1 = .error .disposed := by
      show (x.context c).checkExecuting = _
      unfold Context.checkExecuting
      rw [hx]
    rw [hrefused]
    exact ⟨_, rfl⟩
  · cases a with
    | error e => exact .inl ⟨_, rfl⟩
    | ok => exact .inr ⟨_, rfl⟩

/-! ## Disposing -/

/-- Events by which the scope that was taken, if there was one, is disposed of. -/
def Lets (scope : Option ScopeId) (es : List Event) : Prop :=
  match scope with
  | none => Others es
  | some s => ∃ es₁ v es₂, es = es₁ ++ ⟨true, .disposeScope s, v⟩ :: es₂ ∧ Others es₁ ∧ Others es₂

/-- The events of a call that disposes of a context. In the world `x` it is marked, in `y` its scope is
taken, and in `z` its items are let go. -/
structure Cut (c : ContextId) (es before between closing after : List Event) (x y z : World) : Prop where
  events : es = before ++ ⟨true, .onContext c .markDisposed, x⟩ ::
    (between ++ ⟨true, .onContext c .takeScope, y⟩ :: (closing ++ ⟨true, .onContext c .clearItems, z⟩ :: after))
  live : (x.context c).state ≠ .disposed
  before : Others before
  between : Others between
  lets : Lets (y.context c).scope closing
  after : Others after

theorem dispose_cases {r : Except Panic Bool} (run : Job.Run (Job.dispose c) w es r w') :
    (r = .ok false ∧ (∀ e ∈ es, e.mine = true →
      e.op = .onContext c .markDisposed ∧ (e.before.context c).state = .disposed)) ∨
    (r = .ok true ∧ ∃ before between closing after x y z, Cut c es before between closing after x y z) := by
  -- the call with nothing after it, so that its steps come off one by one
  rw [← bind_pure (Job.dispose c)] at run
  obtain ⟨es₁, es', first, w₁, rfl, ⟨before, x, rfl, hbefore, -, hfirst, rfl⟩, run₁⟩ :=
    Job.Run.op_inv (Job.Run.assoc run)
  have hlive : first = true ↔ (x.context c).state ≠ .disposed := hfirst ▸ markDisposed_first _
  cases first with
  | false =>
    -- somebody else was first, and there is nothing more to do
    have hx : (x.context c).state = .disposed := not_not.1 fun hx => nomatch hlive.2 hx
    obtain ⟨hothers, -, rfl⟩ := run₁
    refine .inl ⟨rfl, fun e he hm => ?_⟩
    rw [List.append_assoc, List.mem_append, List.mem_append, List.mem_singleton] at he
    rcases he with he | rfl | he
    · rw [hbefore e he] at hm
      cases hm
    · exact ⟨rfl, hx⟩
    · rw [hothers e he] at hm
      cases hm
  | true =>
    have hx := hlive.1 rfl
    obtain ⟨es₂, es', scope, w₂, rfl, ⟨between, y, rfl, hbetween, -, hscope, rfl⟩, run₂⟩ := Job.Run.op_inv run₁
    change scope = (y.context c).scope at hscope
    cases scope with
    | none =>
      obtain ⟨es₃, after, u, w₃, rfl, ⟨closing, z, rfl, hclosing, -⟩, hafter, -, rfl⟩ := Job.Run.op_inv run₂
      refine .inr ⟨rfl, before, between, closing, after, x, y, z, ?_, hx, hbefore, hbetween, ?_, hafter⟩
      · simp only [List.append_assoc, List.singleton_append]
      · rw [← hscope]
        exact hclosing
    | some s =>
      obtain ⟨es₃, es', u, w₃, rfl, ⟨es₄, v, rfl, hes₄, -⟩, run₃⟩ := Job.Run.op_inv run₂
      obtain ⟨es₅, after, u, w₄, rfl, ⟨es₆, z, rfl, hes₆, -⟩, hafter, -, rfl⟩ := Job.Run.op_inv run₃
      refine .inr ⟨rfl, before, between, es₄ ++ ⟨true, .disposeScope s, v⟩ :: es₆, after, x, y, z, ?_, hx,
        hbefore, hbetween, ?_, hafter⟩
      · simp only [List.append_assoc, List.cons_append, List.nil_append]
      · rw [← hscope]
        exact ⟨es₄, v, es₆, rfl, hes₄, hes₆⟩

/-- What is asked for to dispose of a scope is nothing but that. -/
theorem Lets.own {scope : Option ScopeId} (h : Lets scope es) :
    Own (fun op => ∃ s, scope = some s ∧ op = .disposeScope s) es := by
  cases scope with
  | none => exact Others.own h
  | some s =>
    obtain ⟨es₁, v, es₂, rfl, hothers₁, hothers₂⟩ := h
    exact hothers₁.own.append (hothers₂.own.cons ⟨s, rfl, rfl⟩)

theorem Cut.marked {before between closing after : List Event} {x y z : World}
    (h : Cut c es before between closing after x y z) :
    ⟨true, .onContext c .markDisposed, x⟩ ∈ es := by
  rw [h.events]
  exact List.mem_append_right _ (List.mem_cons_self ..)

theorem dispose_unguarded (c : ContextId) : Job.AsksOnly (fun op => op.guard? c = none) (Job.dispose c) := by
  refine ⟨rfl, fun first => ?_⟩
  cases first with
  | false => trivial
  | true =>
    refine ⟨rfl, fun scope => ?_⟩
    cases scope with
    | none => exact ⟨rfl, fun _ => trivial⟩
    | some s => exact ⟨rfl, fun _ => ⟨rfl, fun _ => trivial⟩⟩

/-! ## Tasks -/

/-- An operation that no call on a context asks for to dispose of it or to act on it. `S` are the scopes
that were opened for it. -/
structure Op.Elsewhere (c : ContextId) (S : List ScopeId) (op : Op) : Prop where
  frees : ¬ Frees c S op
  unguarded : op.guard? c = none

/-- What a task does about a context: it makes one of the calls, through whichever clone, and comes to the
end of it, or it does something else. -/
inductive CallsOn (c : ContextId) (S : List ScopeId) (w : World) (es : List Event) (w' : World) : Prop
  | disposes {r} (run : Job.Run (Job.dispose c) w es r w')
  | opens {r} (run : Job.Run (Job.openServices c) w es r w')
  | sets {key value r} (run : Job.Run (Job.setItem c key value) w es r w')
  | elsewhere (own : Own (Op.Elsewhere c S) es)

namespace CallsOn

/-- Who acts on a context has looked at it when it was not disposed of. -/
theorem looked (h : CallsOn c S w es w') (hact : ⟨true, op, y⟩ ∈ es) (hguard : op.guard? c = some look) :
    ∃ x, ⟨true, .onContext c look, x⟩ ∈ es ∧ (x.context c).state ≠ .disposed := by
  cases h with
  | disposes run =>
    have hnone : op.guard? c = none := run.own (dispose_unguarded c) _ hact rfl
    rw [hguard] at hnone
    cases hnone
  | opens run =>
    rcases openServices_inv run with hlooks | ⟨hlive, hown⟩
    · obtain rfl : op = _ := hlooks _ hact rfl
      cases hguard
    · obtain rfl | rfl : op = _ ∨ op = _ := hown _ hact rfl
      · cases hguard
      · rw [guard_scopeOf] at hguard
        cases hguard
        exact hlive
  | sets run =>
    rcases setItem_inv run with hlooks | ⟨hlive, hown⟩
    · obtain rfl : op = _ := hlooks _ hact rfl
      cases hguard
    · obtain rfl | rfl : op = _ ∨ op = _ := hown _ hact rfl
      · cases hguard
      · rw [guard_putItem] at hguard
        cases hguard
        exact hlive
  | elsewhere hown =>
    have hnone := (hown _ hact rfl).unguarded
    rw [hguard] at hnone
    cases hnone

/-- Who frees what belongs to a context disposes of it, or marks it when that has been done. -/
theorem frees (h : CallsOn c S w es w') (hmem : ⟨true, op, y⟩ ∈ es) (hfrees : Frees c S op) :
    (op = .onContext c .markDisposed ∧ (y.context c).state = .disposed) ∨
      ∃ x, ⟨true, .onContext c .markDisposed, x⟩ ∈ es ∧ (x.context c).state ≠ .disposed := by
  cases h with
  | disposes run =>
    rcases dispose_cases run with ⟨-, hagain⟩ | ⟨-, before, between, closing, after, x, y', z, hcut⟩
    · exact .inl (hagain _ hmem rfl)
    · exact .inr ⟨x, hcut.marked, hcut.live⟩
  | opens run =>
    rcases openServices_inv run with hlooks | ⟨-, hown⟩
    · obtain rfl : op = _ := hlooks _ hmem rfl
      cases hfrees
    · obtain rfl | rfl : op = _ ∨ op = _ := hown _ hmem rfl <;> cases hfrees
  | sets run =>
    rcases setItem_inv run with hlooks | ⟨-, hown⟩
    · obtain rfl : op = _ := hlooks _ hmem rfl
      cases hfrees
    · obtain rfl | rfl : op = _ ∨ op = _ := hown _ hmem rfl <;> cases hfrees
  | elsewhere hown => exact absurd hfrees (hown _ hmem rfl).frees

end CallsOn

end FunctionWorker
