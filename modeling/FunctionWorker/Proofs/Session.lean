/-
Sessions. Something that keeps a state is asked again and again, each time in the state in which the request before
has left it. What holds at first and is kept by one request holds before each request of a session.
-/
import Mathlib.Tactic.Common

namespace FunctionWorker

variable {σ κ ρ : Type}

/-- A request that was answered, with the states before and after it. -/
structure Answered (σ κ ρ : Type) where
  request : κ
  before : σ
  reply : ρ
  after : σ

/-- Requests that are answered one after another. -/
def session (answer : σ → κ → ρ × σ) : σ → List κ → List (Answered σ κ ρ)
  | _, [] => []
  | s, k :: ks => ⟨k, s, (answer s k).1, (answer s k).2⟩ :: session answer (answer s k).2 ks

variable {answer : σ → κ → ρ × σ} {s : σ} {ks : List κ} {prior past later : List (Answered σ κ ρ)}
  {m : Answered σ κ ρ}

/-- What a request keeps, whatever was asked before it, is kept by a session that goes on from there. -/
theorem session_keeps {Inv : List (Answered σ κ ρ) → σ → Prop}
    (hstep : ∀ {past m}, answer m.before m.request = (m.reply, m.after) → Inv past m.before →
      Inv (past ++ [m]) m.after)
    (hprior : Inv prior s) (h : session answer s ks = past ++ m :: later) :
    Inv (prior ++ past) m.before ∧ answer m.before m.request = (m.reply, m.after) := by
  induction ks generalizing s prior past with
  | nil => simp [session] at h
  | cons k ks ih =>
    rw [session] at h
    cases past with
    | nil =>
      obtain ⟨rfl, -⟩ := List.cons.inj h
      simpa using hprior
    | cons p past =>
      obtain ⟨rfl, hrest⟩ := List.cons.inj h
      have hkept := hstep (m := ⟨k, s, (answer s k).1, (answer s k).2⟩) rfl hprior
      have hlater := ih hkept hrest
      rwa [List.append_assoc] at hlater

/-- Each request is answered in the state in which it finds things. -/
theorem session_answer (h : session answer s ks = past ++ m :: later) :
    answer m.before m.request = (m.reply, m.after) :=
  (@session_keeps _ _ _ _ _ _ [] _ _ _ (fun _ _ => True) (fun _ _ => trivial) trivial h).2

end FunctionWorker
