/-
Jobs that take turns. A list says whose turn it is, and the job whose turn it is goes on by one step: it asks for one
operation or is done with one wait, and the stream takes whatever it is given. So it is determined what comes of
several jobs, and each of them that is over has run among the others.
-/
import FunctionWorker.Proofs.World.History

namespace FunctionWorker

variable {w : World} {es : List Event} {t t' : Nat}

/-! ## One turn -/

section Turn

variable {α : Type} {j : Job α} {r : Except Panic α} {v : World}

/-- What an effect of the task `t` adds to the history. -/
def Effect.deeds (t : Nat) (w : World) : Effect Op → List Deed
  | .own op => [⟨t, op, w⟩]
  | _ => []

/-- The next step of the task `t` with what is left to it to do. -/
def Job.turn (t : Nat) (w : World) : Job α → List Deed × Job α × World
  | .call x k => (x.deeds t w, k (x.alone w).1, (x.alone w).2)
  | .wait _ rest => ([], rest, w)
  | j => ([], j, w)

theorem Effect.yields_deeds (x : Effect Op) (t : Nat) (w : World) :
    x.Yields w (view t (x.deeds t w)) (x.alone w).1 (x.alone w).2 := by
  cases x with
  | own op =>
    refine ⟨[], w, ?_, others_nil, rfl, rfl, rfl⟩
    simp [view, deeds]
  | _ => exact ⟨others_nil, rfl⟩

theorem Job.turn_leads (j : Job α) (t t' : Nat) (w : World) : Leads w (view t' (j.turn t w).1) (j.turn t w).2.2 := by
  cases j with
  | call x k =>
    cases x with
    | own op => exact ⟨rfl, rfl⟩
    | _ => rfl
  | _ => rfl

theorem Job.turn_others (j : Job α) (w : World) (ht : t ≠ t') : Others (view t' (j.turn t w).1) := by
  have hdeeds : ∀ x : Effect Op, Others (view t' (x.deeds t w)) := by
    intro x
    cases x with
    | own op =>
      intro e he
      rw [List.mem_singleton.1 he]
      exact beq_false_of_ne ht
    | _ => exact others_nil
  cases j with
  | call x k => exact hdeeds x
  | _ => exact others_nil

/-- A run that goes on from a turn of the job's own. -/
theorem Job.run_of_turn (h : Run (j.turn t w).2.1 (j.turn t w).2.2 es r v) :
    Run j w (view t (j.turn t w).1 ++ es) r v := by
  cases j with
  | call x k => exact ⟨_, _, _, _, rfl, x.yields_deeds t w, h⟩
  | wait | done | panic => exact h

end Turn

/-! ## Turns of several jobs -/

variable {α : Nat → Type}

/-- The result of a job that is over. -/
def Job.result? {α : Type} : Job α → Option (Except Panic α)
  | .done a => some (.ok a)
  | .panic p => some (.error p)
  | _ => none

theorem Job.run_of_result {α : Type} {j : Job α} {r : Except Panic α} (h : j.result? = some r) : Run j w [] r w := by
  cases j with
  | done | panic =>
    cases h
    exact ⟨others_nil, rfl, rfl⟩
  | call | wait => cases h

/-- What comes of jobs that take the turns of a list: the history, what is left to each to do, and the world. -/
def play (jobs : (t : Nat) → Job (α t)) (w : World) : List Nat → List Deed × ((t : Nat) → Job (α t)) × World
  | [] => ([], jobs, w)
  | t :: turns =>
    let (deeds, job, v) := (jobs t).turn t w
    let (history, left, w') := play (Function.update jobs t job) v turns
    (deeds ++ history, left, w')

/-- Each job that is over has run in the history of them all. -/
theorem run_play (jobs : (t : Nat) → Job (α t)) (t : Nat) {turns : List Nat} {r : Except Panic (α t)}
    (h : ((play jobs w turns).2.1 t).result? = some r) :
    Job.Run (jobs t) w (view t (play jobs w turns).1) r (play jobs w turns).2.2 := by
  induction turns generalizing jobs w with
  | nil => exact Job.run_of_result h
  | cons t' turns ih =>
    have hrest := ih _ h
    have hview : view t (play jobs w (t' :: turns)).1 = view t ((jobs t').turn t' w).1 ++
        view t (play (Function.update jobs t' ((jobs t').turn t' w).2.1) ((jobs t').turn t' w).2.2 turns).1 :=
      List.map_append
    rw [hview]
    by_cases ht : t' = t
    · subst ht
      rw [Function.update_self] at hrest
      exact Job.run_of_turn hrest
    · rw [Function.update_of_ne (Ne.symm ht)] at hrest
      exact hrest.after_others ((jobs t').turn_others w ht) ((jobs t').turn_leads t' t w)

end FunctionWorker
