/-
Runs of jobs in a world that is shared. A job asks for operations one after another; before each of
them, and after the last one, any operations of other tasks may have been carried out. What the
stream answers is left open, and a wait may take any time. A run is told by the operations of both
kinds in their order, each with the world it was carried out in.
-/
import FunctionWorker.Invocation.Call
import Mathlib.Tactic

namespace FunctionWorker

/-! ## Events -/

/-- An operation that was carried out: whether the job asked for it, and the world before it. -/
structure Event where
  mine : Bool
  op : Op
  before : World

def Event.after (e : Event) : World := (World.perform e.op e.before).2

/-- Events that follow one another from one world to another. -/
def Leads : World → List Event → World → Prop
  | w, [], w' => w = w'
  | w, e :: es, w' => e.before = w ∧ Leads e.after es w'

/-- Events of other tasks only. -/
def Others (es : List Event) : Prop := ∀ e ∈ es, e.mine = false

/-- Events of the job only. -/
def Mine (es : List Event) : Prop := ∀ e ∈ es, e.mine = true

/-- What all operations are that a job asked for in some events. -/
def Own (P : Op → Prop) (es : List Event) : Prop := ∀ e ∈ es, e.mine = true → P e.op

theorem others_nil : Others [] := fun _ h => absurd h List.not_mem_nil

theorem mine_nil : Mine [] := fun _ h => absurd h List.not_mem_nil

variable {α β : Type} {w v w' : World} {es es₁ es₂ : List Event}

theorem Mine.append (h₁ : Mine es₁) (h₂ : Mine es₂) : Mine (es₁ ++ es₂) := fun e he =>
  (List.mem_append.1 he).elim (h₁ e) (h₂ e)

theorem Mine.left (h : Mine (es₁ ++ es₂)) : Mine es₁ := fun e he =>
  h e (List.mem_append_left _ he)

theorem Mine.right (h : Mine (es₁ ++ es₂)) : Mine es₂ := fun e he =>
  h e (List.mem_append_right _ he)

theorem Mine.eq_nil (h : Mine es) (ho : Others es) : es = [] := by
  refine List.eq_nil_iff_forall_not_mem.2 fun e he => ?_
  have hmine := h e he
  rw [ho e he] at hmine
  cases hmine

theorem Others.own {P : Op → Prop} (h : Others es) : Own P es := by
  intro e he hm
  rw [h e he] at hm
  cases hm

theorem Others.append (h₁ : Others es₁) (h₂ : Others es₂) : Others (es₁ ++ es₂) := fun e he =>
  (List.mem_append.1 he).elim (h₁ e) (h₂ e)

theorem Own.imp {P Q : Op → Prop} (h : Own P es) (himp : ∀ op, P op → Q op) : Own Q es := fun e he hm =>
  himp e.op (h e he hm)

theorem Own.append {P : Op → Prop} (h₁ : Own P es₁) (h₂ : Own P es₂) : Own P (es₁ ++ es₂) := fun e he =>
  (List.mem_append.1 he).elim (h₁ e) (h₂ e)

theorem Own.cons {P : Op → Prop} {e : Event} (he : P e.op) (h : Own P es) : Own P (e :: es) := fun x hx hm =>
  (List.mem_cons.1 hx).elim (fun heq => heq ▸ he) fun hmem => h x hmem hm

theorem leads_append : Leads w (es₁ ++ es₂) w' ↔ ∃ v, Leads w es₁ v ∧ Leads v es₂ w' := by
  induction es₁ generalizing w with
  | nil =>
    constructor
    · intro h
      exact ⟨w, rfl, h⟩
    · rintro ⟨v, rfl, h⟩
      exact h
  | cons e es₁ ih =>
    simp only [List.cons_append, Leads, ih]
    tauto

/-- What every event keeps is kept from the first world to the last. -/
theorem Leads.keeps {P : World → Prop} (h : Leads w es w')
    (hstep : ∀ e ∈ es, P e.before → P e.after) (hw : P w) : P w' := by
  induction es generalizing w with
  | nil =>
    cases h
    exact hw
  | cons e es ih =>
    obtain ⟨rfl, h⟩ := h
    exact ih h (fun x hx => hstep x (List.mem_cons_of_mem _ hx)) (hstep e (List.mem_cons_self ..) hw)

/-- What is kept up to an event holds before it. -/
theorem Leads.holds_before {P : World → Prop} (h : Leads w es w')
    (hstep : ∀ e ∈ es, P e.before → P e.after) (hw : P w) : ∀ e ∈ es, P e.before := by
  intro e he
  obtain ⟨es₁, es₂, rfl⟩ := List.append_of_mem he
  obtain ⟨v, h₁, h₂⟩ := leads_append.1 h
  rw [h₂.1]
  exact h₁.keeps (fun x hx => hstep x (List.mem_append_left _ hx)) hw

/-- An operation that is carried out for the job, after events of other tasks. -/
def Op.Yields (op : Op) (w : World) (es : List Event) (a : op.Reply) (w' : World) : Prop :=
  ∃ es₁ v, es = es₁ ++ [⟨true, op, v⟩] ∧ Others es₁ ∧ Leads w es₁ v ∧
    a = (World.perform op v).1 ∧ w' = (World.perform op v).2

/-- An effect that is carried out for the job. What the stream answers is open. -/
def Effect.Yields : (x : Effect Op) → World → List Event → x.Reply Op.Reply → World → Prop
  | .own op, w, es, a, w' => op.Yields w es a w'
  | _, w, es, _, w' => Others es ∧ Leads w es w'

theorem Op.Yields.leads {op : Op} {a : op.Reply} (h : op.Yields w es a w') : Leads w es w' := by
  obtain ⟨es₁, v, rfl, -, h₁, -, rfl⟩ := h
  exact leads_append.2 ⟨v, h₁, rfl, rfl⟩

/-- The one event of the job's own is the operation itself. -/
theorem Op.Yields.own {P : Op → Prop} {op : Op} {a : op.Reply} (h : op.Yields w es a w') (hop : P op) :
    Own P es := by
  obtain ⟨es₁, v, rfl, hothers, -⟩ := h
  refine hothers.own.append fun e he _ => ?_
  rw [List.mem_singleton.1 he]
  exact hop

theorem Effect.Yields.leads {x : Effect Op} {a : x.Reply Op.Reply} (h : x.Yields w es a w') :
    Leads w es w' := by
  cases x with
  | own op => exact Op.Yields.leads h
  | _ => exact h.2

theorem Op.Yields.after_others {op : Op} {a : op.Reply} (hothers : Others es₁) (hleads : Leads w es₁ v)
    (h : op.Yields v es₂ a w') : op.Yields w (es₁ ++ es₂) a w' := by
  obtain ⟨es, u, rfl, hes, hu, ha, hw⟩ := h
  exact ⟨es₁ ++ es, u, (List.append_assoc ..).symm, hothers.append hes, leads_append.2 ⟨v, hleads, hu⟩, ha, hw⟩

theorem Effect.Yields.after_others {x : Effect Op} {a : x.Reply Op.Reply} (hothers : Others es₁)
    (hleads : Leads w es₁ v) (h : x.Yields v es₂ a w') : x.Yields w (es₁ ++ es₂) a w' := by
  cases x with
  | own op => exact Op.Yields.after_others hothers hleads h
  | _ => exact ⟨hothers.append h.1, leads_append.2 ⟨v, hleads, h.2⟩⟩

/-- Where the operation is found among the events, it was answered. -/
theorem Op.Yields.answered {op : Op} {a : op.Reply} {x : World} (h : op.Yields w es a w')
    (hx : ⟨true, op, x⟩ ∈ es) : a = (World.perform op x).1 := by
  obtain ⟨es₁, v, rfl, hothers, -, ha, -⟩ := h
  rcases List.mem_append.1 hx with hx | hx
  · cases hothers _ hx
  · cases List.mem_singleton.1 hx
    exact ha

/-- An effect without other tasks, on a stream that takes everything. -/
def Effect.alone : (x : Effect Op) → World → x.Reply Op.Reply × World
  | .own op, w => World.perform op w
  | .now, w => ((0 : Nat), w)
  | .isClosed, w => (false, w)
  | .push _, w => (true, w)
  | .close, w => ((), w)
  | .watch _, w => ((), w)

theorem Effect.yields_alone (x : Effect Op) (w : World) :
    ∃ es, Mine es ∧ x.Yields w es (x.alone w).1 (x.alone w).2 := by
  cases x with
  | own op =>
    refine ⟨[⟨true, op, w⟩], fun e he => ?_, [], w, rfl, others_nil, rfl, rfl, rfl⟩
    rw [List.mem_singleton.1 he]
  | _ => exact ⟨[], mine_nil, others_nil, rfl⟩

/-- An effect that is an operation of some kind, or one on the stream. -/
def Effect.Of (P : Op → Prop) : Effect Op → Prop
  | .own op => P op
  | _ => True

theorem Effect.Yields.own {P : Op → Prop} {x : Effect Op} {a : x.Reply Op.Reply} (h : x.Yields w es a w')
    (hx : x.Of P) : Own P es := by
  cases x with
  | own op => exact Op.Yields.own h hx
  | _ => exact h.1.own

theorem Routine.bind_done {Op : Type} {Reply : Op → Type} : ∀ r : Routine Reply α, r.bind .done = r
  | .done _ => rfl
  | .panic _ => rfl
  | .call op k => congrArg (Routine.call op) (funext fun a => bind_done (k a))
  | .wait w rest => congrArg (Routine.wait w) (bind_done rest)

theorem Routine.bind_bind {γ Op : Type} {Reply : Op → Type} {f : α → Routine Reply β}
    {g : β → Routine Reply γ} : ∀ r : Routine Reply α, (r.bind f).bind g = r.bind fun a => (f a).bind g
  | .done _ => rfl
  | .panic _ => rfl
  | .call op k => congrArg (Routine.call op) (funext fun a => bind_bind (k a))
  | .wait w rest => congrArg (Routine.wait w) (bind_bind rest)

instance {Op : Type} {Reply : Op → Type} : LawfulMonad (Routine Reply) :=
  LawfulMonad.mk' (Routine Reply) Routine.bind_done (fun _ _ => rfl) (fun r _ _ => Routine.bind_bind r)

namespace Job

/-! ## Runs -/

/-- A run of a job from one world to another, with its events and its result. -/
def Run : Job α → World → List Event → Except Panic α → World → Prop
  | .done a, w, es, r, w' => Others es ∧ Leads w es w' ∧ r = .ok a
  | .panic p, w, es, r, w' => Others es ∧ Leads w es w' ∧ r = .error p
  | .call x k, w, es, r, w' =>
    ∃ es₁ es₂ a v, es = es₁ ++ es₂ ∧ x.Yields w es₁ a v ∧ Run (k a) v es₂ r w'
  | .wait _ rest, w, es, r, w' => Run rest w es r w'

variable {r : Except Panic α}

theorem Run.leads : ∀ {j : Job α} {w : World} {es : List Event}, Run j w es r w' → Leads w es w'
  | .done _, _, _, h => h.2.1
  | .panic _, _, _, h => h.2.1
  | .call _ k, _, _, h => by
    obtain ⟨es₁, es₂, a, v, rfl, h₁, h₂⟩ := h
    exact leads_append.2 ⟨v, h₁.leads, Run.leads h₂⟩
  | .wait _ rest, _, _, h => Run.leads (j := rest) h

/-- What others do before a run counts for the run. -/
theorem Run.after_others (hothers : Others es₁) (hleads : Leads w es₁ v) :
    ∀ {j : Job α} {es₂ : List Event}, Run j v es₂ r w' → Run j w (es₁ ++ es₂) r w'
  | .done _, _, h | .panic _, _, h => ⟨hothers.append h.1, leads_append.2 ⟨v, hleads, h.2.1⟩, h.2.2⟩
  | .call _ k, _, h => by
    obtain ⟨es₃, es₄, a, u, rfl, hx, hk⟩ := h
    exact ⟨es₁ ++ es₃, es₄, a, u, (List.append_assoc ..).symm, hx.after_others hothers hleads, hk⟩
  | .wait _ rest, _, h => Run.after_others hothers hleads (j := rest) h

/-- What others do after a run counts for the run. -/
theorem Run.before_others (hothers : Others es₂) (hleads : Leads v es₂ w') :
    ∀ {j : Job α} {w : World} {es₁ : List Event}, Run j w es₁ r v → Run j w (es₁ ++ es₂) r w'
  | .done _, _, _, h | .panic _, _, _, h =>
    ⟨h.1.append hothers, leads_append.2 ⟨v, h.2.1, hleads⟩, h.2.2⟩
  | .call _ k, _, _, h => by
    obtain ⟨es₃, es₄, a, u, rfl, hx, hk⟩ := h
    exact ⟨es₃, es₄ ++ es₂, a, u, List.append_assoc .., hx, Run.before_others hothers hleads hk⟩
  | .wait _ rest, _, _, h => Run.before_others hothers hleads (j := rest) h

theorem run_done (a : α) (w : World) : Run (.done a) w [] (.ok a) w := ⟨others_nil, rfl, rfl⟩

/-- A job that is alone has a run: no operation is refused and no wait is for ever. -/
theorem run_alone : ∀ (j : Job α) (w : World),
    ∃ es, Mine es ∧ Run j w es (Routine.run Effect.alone j w).1 (Routine.run Effect.alone j w).2
  | .done a, w => ⟨[], mine_nil, run_done a w⟩
  | .panic p, w => ⟨[], mine_nil, others_nil, rfl, rfl⟩
  | .call x k, w => by
    obtain ⟨es₁, hmine₁, h₁⟩ := x.yields_alone w
    obtain ⟨es₂, hmine₂, h₂⟩ := run_alone (k (x.alone w).1) (x.alone w).2
    exact ⟨es₁ ++ es₂, hmine₁.append hmine₂, es₁, es₂, _, _, rfl, h₁, h₂⟩
  | .wait _ rest, w => run_alone rest w

/-- A job that is alone does an operation and goes on with what it was answered. -/
theorem run_op (op : Op) (k : op.Reply → Job α) :
    Routine.run Effect.alone (Job.op op >>= k) w =
      Routine.run Effect.alone (k (World.perform op w).1) (World.perform op w).2 := rfl

/-! ## Runs of composed jobs -/

variable {j : Job α} {f : α → Job β}

/-- A job that goes on with the value of another runs in two parts, or the first part panics. -/
theorem Run.bind_inv {r : Except Panic β} : ∀ {j : Job α} {w : World} {es : List Event},
    Run (j >>= f) w es r w' →
      (∃ a es₁ es₂ v, es = es₁ ++ es₂ ∧ Run j w es₁ (.ok a) v ∧ Run (f a) v es₂ r w') ∨
      ∃ p, r = .error p ∧ Run j w es (.error p) w'
  -- what others do once the first part is done counts for the second one
  | .done a, w, es, h => .inl ⟨a, [], es, w, rfl, ⟨others_nil, rfl, rfl⟩, h⟩
  | .panic p, _, _, h => .inr ⟨p, h.2.2, h.1, h.2.1, rfl⟩
  | .call _ k, _, _, h => by
    obtain ⟨es₁, es₂, a, v, rfl, h₁, h₂⟩ := h
    rcases Run.bind_inv (j := k a) h₂ with ⟨b, es₃, es₄, v', rfl, h₃, h₄⟩ | ⟨p, rfl, h₃⟩
    · exact .inl ⟨b, es₁ ++ es₃, es₄, v', (List.append_assoc ..).symm, ⟨es₁, es₃, a, v, rfl, h₁, h₃⟩, h₄⟩
    · exact .inr ⟨p, rfl, es₁, es₂, a, v, rfl, h₁, h₃⟩
  | .wait _ rest, _, _, h => Run.bind_inv (j := rest) h

theorem Run.assoc {γ : Type} {g : β → Job γ} {r : Except Panic γ} (h : Run ((j >>= f) >>= g) w es r w') :
    Run (j >>= fun a => f a >>= g) w es r w' := by
  rwa [bind_assoc] at h

/-- A job that begins with an operation. -/
theorem Run.op_inv {op : Op} {f : op.Reply → Job β} {r : Except Panic β} (h : Run (Job.op op >>= f) w es r w') :
    ∃ es₁ es₂ a v, es = es₁ ++ es₂ ∧ op.Yields w es₁ a v ∧ Run (f a) v es₂ r w' := h

/-- A panic that is caught is the value of the run. -/
theorem Run.attempt_inv {r : Except Panic (Except Panic α)} : ∀ {j : Job α} {w : World} {es : List Event},
    Run j.attempt w es r w' → ∃ r', r = .ok r' ∧ Run j w es r' w'
  | .done a, _, _, h => ⟨.ok a, h.2.2, h.1, h.2.1, rfl⟩
  | .panic p, _, _, h => ⟨.error p, h.2.2, h.1, h.2.1, rfl⟩
  | .call _ k, _, _, h => by
    obtain ⟨es₁, es₂, a, v, rfl, h₁, h₂⟩ := h
    obtain ⟨r', hr, h₃⟩ := Run.attempt_inv (j := k a) h₂
    exact ⟨r', hr, es₁, es₂, a, v, rfl, h₁, h₃⟩
  | .wait _ rest, _, _, h => Run.attempt_inv (j := rest) h

/-! ## What a job asks for -/

/-- Whatever is answered, the job asks only for operations of some kind. -/
def AsksOnly (P : Op → Prop) : Job α → Prop
  | .done _ | .panic _ => True
  | .call x k => x.Of P ∧ ∀ a, AsksOnly P (k a)
  | .wait _ rest => AsksOnly P rest

variable {P : Op → Prop}

/-- The operations of a job's own are of the kind that it asks for. -/
theorem Run.own {r : Except Panic α} : ∀ {j : Job α} {w : World} {es : List Event},
    Run j w es r w' → AsksOnly P j → Own P es
  | .done _, _, _, h, _ | .panic _, _, _, h, _ => h.1.own
  | .call x k, _, _, h, hasks => by
    obtain ⟨es₁, es₂, a, v, rfl, h₁, h₂⟩ := h
    exact (h₁.own hasks.1).append (Run.own h₂ (hasks.2 a))
  | .wait _ rest, _, _, h, hasks => Run.own (j := rest) h hasks

end Job

end FunctionWorker
