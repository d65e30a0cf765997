/-
The registrations of a world that is shared. Only two operations change which registrations there
are, and each of them is about one.
-/
import FunctionWorker.Proofs.Entries
import FunctionWorker.Proofs.World.Operations
import FunctionWorker.Proofs.World.Run

namespace FunctionWorker

namespace World

/-- Whether a registration is the one that its id stands for. -/
def Registered (w : World) (r : Registration) : Prop := (r.invocationId, r.token) ∈ w.cancellations.entries

instance (w : World) (r : Registration) : Decidable (w.Registered r) := inferInstanceAs (Decidable (_ ∈ _))

end World

variable {w w' : World} {r : Registration} {es : List Event}

theorem entries_perform {op : Op} (hinsert : ∀ r, op ≠ .insertRegistration r)
    (hremove : ∀ r, op ≠ .removeRegistration r) (w : World) :
    (World.perform op w).2.cancellations.entries = w.cancellations.entries := by
  rw [cancellations_perform]
  cases op with
  | insertRegistration r => exact absurd rfl (hinsert r)
  | removeRegistration r => exact absurd rfl (hremove r)
  | tryCancel id =>
    show (w.cancellations.tryCancel id).2.entries = w.cancellations.entries
    unfold CancellationRegistry.tryCancel
    split <;> rfl
  | _ => rfl

/-- An insertion is about one id. -/
theorem registered_insert {reg : Registration} (h : r.invocationId ≠ reg.invocationId) (w : World) :
    (World.perform (.insertRegistration reg) w).2.Registered r ↔ w.Registered r :=
  Entries.mem_put_of_ne h

theorem mem_filter_ne {reg : Registration} {l : List (String × TokenId)} :
    (r.invocationId, r.token) ∈ l.filter (fun e => e ≠ (reg.invocationId, reg.token)) ↔
      (r.invocationId, r.token) ∈ l ∧ r ≠ reg := by
  rw [List.mem_filter, decide_eq_true_iff]
  refine and_congr_right fun _ => not_congr ⟨fun h => ?_, fun h => by rw [h]⟩
  obtain ⟨id, token⟩ := r
  cases h
  rfl

/-- A removal is about one registration. -/
theorem registered_remove {reg : Registration} (h : r ≠ reg) (w : World) :
    (World.perform (.removeRegistration reg) w).2.Registered r ↔ w.Registered r :=
  mem_filter_ne.trans (and_iff_left h)

theorem not_registered_remove (r : Registration) (w : World) :
    ¬ (World.perform (.removeRegistration r) w).2.Registered r :=
  fun h => (mem_filter_ne.1 h).2 rfl

/-- A registration that is gone comes back only if it is inserted again. -/
theorem not_registered_perform {op : Op} (h : ¬ w.Registered r) (hop : op ≠ .insertRegistration r) :
    ¬ (World.perform op w).2.Registered r := by
  intro hafter
  by_cases hinsert : ∃ reg, op = .insertRegistration reg
  · obtain ⟨reg, rfl⟩ := hinsert
    rcases Entries.mem_of_mem_put hafter with heq | hmem
    · obtain ⟨id, token⟩ := r
      cases heq
      exact hop rfl
    · exact h hmem
  · by_cases hremove : ∃ reg, op = .removeRegistration reg
    · obtain ⟨reg, rfl⟩ := hremove
      exact h (mem_filter_ne.1 hafter).1
    · unfold World.Registered at hafter
      rw [entries_perform (not_exists.1 hinsert) (not_exists.1 hremove)] at hafter
      exact h hafter

end FunctionWorker
