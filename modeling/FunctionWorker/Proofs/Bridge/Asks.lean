/-
What work asks for. Whatever it is answered, its effects are of some kind; that is known of work put
together from parts once it is known of the parts.
-/
import FunctionWorker.Bridge.Outbound
import Mathlib.Tactic

namespace FunctionWorker

variable {Op Op' : Type} {R : Op → Type} {R' : Op' → Type} {α β : Type} {P Q : Effect Op → Prop}

/-- Whatever is answered, the work asks only for effects of some kind. -/
def Work.Asks (P : Effect Op → Prop) : Work R α → Prop
  | .done _ | .panic _ => True
  | .call x k => P x ∧ ∀ a, Asks P (k a)
  | .wait _ rest => Asks P rest

namespace Work.Asks

variable {r : Work R α} {f : α → Work R β}

theorem done (a : α) : Asks P (.done a : Work R α) := trivial

theorem own {op : Op} (h : P (.own op)) : Asks P (Work.own op : Work R (R op)) := ⟨h, fun _ => trivial⟩

theorem imp (h : ∀ x, P x → Q x) : ∀ {r : Work R α}, Asks P r → Asks Q r
  | .done _, _ | .panic _, _ => trivial
  | .call x k, hr => ⟨h x hr.1, fun a => imp h (r := k a) (hr.2 a)⟩
  | .wait _ rest, hr => imp h (r := rest) hr

theorem bind (hf : ∀ a, Asks P (f a)) : ∀ {r : Work R α}, Asks P r → Asks P (r >>= f)
  | .done a, _ => hf a
  | .panic _, _ => trivial
  | .call _ k, hr => ⟨hr.1, fun a => bind hf (r := k a) (hr.2 a)⟩
  | .wait _ rest, hr => bind hf (r := rest) hr

theorem attempt : ∀ {r : Work R α}, Asks P r → Asks P r.attempt
  | .done _, _ | .panic _, _ => trivial
  | .call _ k, hr => ⟨hr.1, fun a => attempt (r := k a) (hr.2 a)⟩
  | .wait _ rest, hr => attempt (r := rest) hr

/-- Operations that are replaced by work ask for what that work asks for. -/
theorem expand {g : (op : Op') → Work R (R' op)} (h : ∀ op, Asks P (g op)) :
    ∀ r : Routine R' α, Asks P (Routine.expand g r : Work R α)
  | .done _ | .panic _ => trivial
  | .call op k => bind (fun a => expand h (k a)) (h op)
  | .wait _ rest => expand h rest

/-- To send is to look at the flag and perhaps to push. -/
theorem send {e : Envelope} (hlook : P .isClosed) (hpush : P (.push e)) : Asks P (Work.send e : Work R Bool) := by
  refine ⟨hlook, fun closed => ?_⟩
  cases closed with
  | false => exact ⟨hpush, fun _ => trivial⟩
  | true => exact trivial

end Work.Asks

end FunctionWorker
