/-
How far a task comes. Work is told by what it has asked for and was answered; the work on an envelope is
to process it and then to send at most one response, which is the one of the processor unless processing
panicked.
-/
import FunctionWorker.Proofs.Bridge.Chronicle

namespace FunctionWorker

variable {Op : Type} {R : Op → Type} {σ α β : Type} {p : Processor R σ} {e : Envelope}

/-! ## Work that goes on -/

/-- Work that comes to other work by what it asks for, with the answers it gets. -/
inductive Comes : Work R α → List (Exchange R) → Work R α → Prop
  | still (r) : Comes r [] r
  | asks {r es x k} (h : Comes r es (.call x k)) (a : x.Reply R) : Comes r (es ++ [⟨x, a⟩]) (k a)
  | waits {r es w rest} (h : Comes r es (.wait w rest)) : Comes r es rest

variable {es : List (Exchange R)} {r r' : Work R α} {f : α → Work R β}

theorem Comes.of_eq (h : r = r') : Comes r [] r' := h ▸ .still r

theorem Comes.done_inv {a : α} (h : Comes (.done a) es r') : es = [] ∧ r' = .done a := by
  induction h with
  | still => exact ⟨rfl, rfl⟩
  | asks _ a ih => cases ih.2
  | waits _ ih => cases ih.2

theorem Comes.call_inv {x : Effect Op} {k : x.Reply R → Work R α} (h : Comes (.call x k) es r') :
    (es = [] ∧ r' = .call x k) ∨ ∃ a more, es = ⟨x, a⟩ :: more ∧ Comes (k a) more r' := by
  induction h with
  | still => exact .inl ⟨rfl, rfl⟩
  | asks h a ih =>
    rcases ih with ⟨rfl, heq⟩ | ⟨b, more, rfl, hmore⟩
    · cases heq
      exact .inr ⟨a, [], rfl, .still _⟩
    · exact .inr ⟨b, more ++ [⟨_, a⟩], rfl, hmore.asks a⟩
  | waits h ih =>
    rcases ih with ⟨-, heq⟩ | ⟨b, more, rfl, hmore⟩
    · cases heq
    · exact .inr ⟨b, more, rfl, hmore.waits⟩

/-- Work that goes on with the value of other work is still at the first part, or that is done. -/
theorem Comes.bind_inv {r' : Work R β} (h : Comes (r.bind f) es r') :
    (∃ r₁, r' = r₁.bind f ∧ Comes r es r₁) ∨
      ∃ a es₁ es₂, es = es₁ ++ es₂ ∧ Comes r es₁ (.done a) ∧ Comes (f a) es₂ r' := by
  induction h with
  | still => exact .inl ⟨r, rfl, .still r⟩
  | asks h a ih =>
    rcases ih with ⟨r₁, heq, h₁⟩ | ⟨b, es₁, es₂, rfl, h₁, h₂⟩
    · cases r₁ with
      -- the first part is done, so it is the second one that asks
      | done b => exact .inr ⟨b, _, [⟨_, a⟩], rfl, h₁, (Comes.of_eq heq.symm).asks a⟩
      | panic x => cases heq
      | call x k =>
        cases heq
        exact .inl ⟨k a, rfl, h₁.asks a⟩
      | wait w rest => cases heq
    · exact .inr ⟨b, es₁, es₂ ++ [⟨_, a⟩], List.append_assoc .., h₁, h₂.asks a⟩
  | waits h ih =>
    rcases ih with ⟨r₁, heq, h₁⟩ | ⟨b, es₁, es₂, rfl, h₁, h₂⟩
    · cases r₁ with
      | done b => exact .inr ⟨b, _, [], (List.append_nil _).symm, h₁, (Comes.of_eq heq.symm).waits⟩
      | panic x => cases heq
      | call x k => cases heq
      | wait w rest =>
        cases heq
        exact .inl ⟨rest, rfl, h₁.waits⟩
    · exact .inr ⟨b, es₁, es₂, rfl, h₁, h₂.waits⟩

theorem Comes.bind_done_inv {b : β} (h : Comes (r.bind f) es (.done b)) :
    ∃ a es₁ es₂, es = es₁ ++ es₂ ∧ Comes r es₁ (.done a) ∧ Comes (f a) es₂ (.done b) := by
  rcases h.bind_inv with ⟨r₁, heq, h₁⟩ | h
  · cases r₁ with
    | done a => exact ⟨a, es, [], (List.append_nil _).symm, h₁, .of_eq heq.symm⟩
    | _ => cases heq
  · exact h

theorem Comes.attempt_inv {r' : Work R (Except Panic α)} (h : Comes r.attempt es r') :
    ∃ r₁, r' = r₁.attempt ∧ Comes r es r₁ := by
  induction h with
  | still => exact ⟨r, rfl, .still r⟩
  | asks h a ih =>
    obtain ⟨r₁, heq, h₁⟩ := ih
    cases r₁ with
    | call x k =>
      cases heq
      exact ⟨k a, rfl, h₁.asks a⟩
    | _ => cases heq
  | waits h ih =>
    obtain ⟨r₁, heq, h₁⟩ := ih
    cases r₁ with
    | wait w rest =>
      cases heq
      exact ⟨rest, rfl, h₁.waits⟩
    | _ => cases heq

theorem Comes.attempt_done_inv {a : Except Panic α} (h : Comes r.attempt es (.done a)) :
    (∃ b, a = .ok b ∧ Comes r es (.done b)) ∨ ∃ x, a = .error x ∧ Comes r es (.panic x) := by
  obtain ⟨r₁, heq, h₁⟩ := h.attempt_inv
  cases r₁ with
  | done b =>
    cases heq
    exact .inl ⟨b, rfl, h₁⟩
  | panic x =>
    cases heq
    exact .inr ⟨x, rfl, h₁⟩
  | _ => cases heq

/-! ## The work on an envelope -/

/-- What it takes to send a response: nothing if there is none; else the flag is looked at, and the
response is pushed once if the stream is not shut down. -/
inductive Responds : Option Envelope → List (Exchange R) → Prop
  | yet (response) : Responds response []
  | looks {e : Envelope} (closed : Bool) : Responds (some e) [.looked closed]
  | pushes {e : Envelope} (taken : Bool) : Responds (some e) [.looked false, .push e taken]

/-- What is asked for in the work on an envelope: it is processed once; then the response of the processor
is sent, or, if processing panicked, the one to the panic. -/
inductive Handles (p : Processor R σ) (e : Envelope) : List (Exchange R) → Prop
  | processes {es : List (Exchange R)} {r} (processing : Comes (p.process e) es r) : Handles p e es
  | answers {es sent : List (Exchange R)} {response} (processed : Comes (p.process e) es (.done response))
      (responds : Responds response sent) : Handles p e (es ++ sent)
  | recovers {es sent : List (Exchange R)} {x ms} (panicked : Comes (p.process e) es (.panic x))
      (responds : Responds (p.failureResponse ms (RequestSummary.of e) x.message) sent) :
      Handles p e (es ++ .now ms :: sent)

theorem Comes.responds {response : Option Envelope} {r : Work R Unit}
    (h : Comes (Bridge.respond response) es r) : Responds response es := by
  cases response with
  | none =>
    obtain ⟨rfl, -⟩ := h.done_inv
    exact .yet _
  | some e =>
    rcases h.call_inv with ⟨rfl, -⟩ | ⟨closed, more, rfl, hmore⟩
    · exact .yet _
    · cases closed with
      | true =>
        obtain ⟨rfl, -⟩ := hmore.done_inv
        exact .looks true
      | false =>
        rcases hmore.call_inv with ⟨rfl, -⟩ | ⟨taken, last, rfl, hlast⟩
        · exact .looks false
        · obtain ⟨rfl, -⟩ := hlast.done_inv
          exact .pushes taken

/-- The work on an envelope handles it. -/
theorem Comes.handles {r : Work R Unit} (h : Comes (Bridge.dispatch p e) es r) : Handles p e es := by
  rcases Comes.bind_inv h with ⟨r₁, -, houtcome⟩ | ⟨response, es₁, sent, rfl, houtcome, hsend⟩
  · -- there is no response yet
    rcases Comes.bind_inv houtcome with ⟨r₂, -, hattempt⟩ | ⟨a, es₁, es₂, rfl, hattempt, hrest⟩
    · obtain ⟨r₃, -, hprocess⟩ := hattempt.attempt_inv
      exact .processes hprocess
    · rcases hattempt.attempt_done_inv with ⟨response, rfl, hprocess⟩ | ⟨x, rfl, hprocess⟩
      · obtain ⟨rfl, -⟩ := hrest.done_inv
        rw [List.append_nil]
        exact .processes hprocess
      · rcases hrest.call_inv with ⟨rfl, -⟩ | ⟨ms, more, rfl, hmore⟩
        · rw [List.append_nil]
          exact .processes hprocess
        · obtain ⟨rfl, -⟩ := hmore.done_inv
          exact .recovers hprocess (.yet _)
  · obtain ⟨a, es₂, es₃, rfl, hattempt, hrest⟩ := Comes.bind_done_inv houtcome
    rcases hattempt.attempt_done_inv with ⟨b, rfl, hprocess⟩ | ⟨x, rfl, hprocess⟩
    · obtain ⟨rfl, hr⟩ := hrest.done_inv
      cases hr
      rw [List.append_nil]
      exact .answers hprocess hsend.responds
    · rcases hrest.call_inv with ⟨-, heq⟩ | ⟨ms, more, rfl, hmore⟩
      · cases heq
      · obtain ⟨rfl, hr⟩ := hmore.done_inv
        cases hr
        rw [List.append_assoc]
        exact .recovers hprocess hsend.responds

/-! ## Panics -/

/-- Work that does not panic, whatever it is answered. -/
def Work.Calm : Work R α → Prop
  | .done _ => True
  | .panic _ => False
  | .call _ k => ∀ a, Calm (k a)
  | .wait _ rest => Calm rest

theorem calm_attempt : ∀ r : Work R α, Work.Calm r.attempt
  | .done _ | .panic _ => trivial
  | .call _ k => fun a => calm_attempt (k a)
  | .wait _ rest => calm_attempt rest

theorem calm_bind (hf : ∀ a, (f a).Calm) : ∀ {r : Work R α}, r.Calm → Work.Calm (r.bind f)
  | .done a, _ => hf a
  | .call _ k, h => fun a => calm_bind hf (r := k a) (h a)
  | .wait _ rest, h => calm_bind hf (r := rest) h

theorem calm_respond : ∀ response : Option Envelope, (Bridge.respond response : Work R Unit).Calm
  | none => trivial
  | some _ => fun closed => by
    cases closed with
    | true => exact trivial
    | false => exact fun _ => trivial

/-- The work on an envelope does not panic, even if processing does. -/
theorem calm_dispatch (p : Processor R σ) (e : Envelope) : (Bridge.dispatch p e).Calm := by
  refine calm_bind calm_respond (calm_bind (fun a => ?_) (calm_attempt (p.process e)))
  cases a with
  | ok response => exact trivial
  | error x => exact fun _ => trivial

theorem Comes.calm (h : Comes r es r') (hr : r.Calm) : r'.Calm := by
  induction h with
  | still => exact hr
  | asks _ a ih => exact ih a
  | waits _ ih => exact ih

end FunctionWorker
