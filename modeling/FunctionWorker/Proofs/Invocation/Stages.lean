/-
The stages of a pipeline: what is asked of middleware, converters, the function and the context, each with its
answer. The runs of a job of the pipeline are those that fall into stages of some kind, one after another, with
nothing of the job's own between them.
-/
import FunctionWorker.Invocation.Pipeline
import FunctionWorker.Proofs.World.Contexts

namespace FunctionWorker

variable {α β : Type} {w v w' : World} {es es₁ es₂ : List Event}

/-! ## Runs one after another -/

/-- Two runs one after the other are a run of the job that goes on with the value of the first. -/
theorem Job.Run.bind {r : Except Panic β} {a : α} {f : α → Job β} (h₂ : Job.Run (f a) v es₂ r w') :
    ∀ {j : Job α} {w : World} {es₁ : List Event}, Job.Run j w es₁ (.ok a) v →
      Job.Run (j >>= f) w (es₁ ++ es₂) r w'
  | .done b, _, _, h => by
    obtain ⟨hothers, hleads, hb⟩ := h
    obtain rfl := Except.ok.inj hb
    exact h₂.after_others hothers hleads
  | .panic _, _, _, h => nomatch h.2.2
  | .call _ k, _, _, h => by
    obtain ⟨es₃, es₄, b, u, rfl, hx, hk⟩ := h
    exact ⟨es₃, es₄ ++ es₂, b, u, List.append_assoc .., hx, Job.Run.bind h₂ (j := k b) hk⟩
  | .wait _ rest, _, _, h => Job.Run.bind h₂ (j := rest) h

/-- A panic ends whatever would have gone on with a value. -/
theorem Job.Run.bind_panic {x : Panic} {f : α → Job β} : ∀ {j : Job α} {w : World} {es : List Event},
    Job.Run j w es (.error x) w' → Job.Run (j >>= f) w es (.error x) w'
  | .done _, _, _, h => nomatch h.2.2
  | .panic _, _, _, h => ⟨h.1, h.2.1, congrArg Except.error (Except.error.inj h.2.2)⟩
  | .call _ k, _, _, h => by
    obtain ⟨es₃, es₄, b, u, rfl, hx, hk⟩ := h
    exact ⟨es₃, es₄, b, u, rfl, hx, Job.Run.bind_panic (j := k b) hk⟩
  | .wait _ rest, _, _, h => Job.Run.bind_panic (j := rest) h

namespace Pipeline

/-! ## Stages -/

/-- What is asked on the way of an invocation, with the answer or the panic that came of it. -/
inductive Stage where
  /-- The middleware at a place decides. -/
  | enters (place : Nat) (answer : Except Panic Decision)
  /-- The middleware at a place has the last word on what came of the rest. -/
  | leaves (place : Nat) (after : Passage → Code Passage) (came : Passage) (answer : Except Panic Passage)
  /-- The facts of the context are read. -/
  | reads (answer : ContextFacts)
  | converts (request : BindingRequest) (answer : Except Panic (Except ConversionError Converted))
  /-- It is asked whether a token is signalled. -/
  | looks (token : TokenId) (answer : Bool)
  | calls (handler : HandlerId) (arguments : Arguments) (answer : Except Panic (Except FunctionError HandlerResult))
  | stores (result : HandlerResult) (answer : Except ContextError Unit)
  | takes (answer : Option HandlerResult)
  /-- An output is set. -/
  | sets (name : String) (value : OutputValue) (answer : Except ContextError Unit)

/-- A stage in which a converter is asked. -/
def Stage.isConversion : Stage → Bool
  | .converts _ _ => true
  | _ => false

/-- A stage in which the function is called. -/
def Stage.isCall : Stage → Bool
  | .calls _ _ _ => true
  | _ => false

/-- A stage in which a middleware has the last word. -/
def Stage.isLeave : Stage → Bool
  | .leaves _ _ _ _ => true
  | _ => false

/-- A stage that is no middleware's. -/
def Stage.isInner : Stage → Bool
  | .enters _ _ | .leaves _ _ _ _ => false
  | _ => true

/-- The place of a middleware that is entered. -/
def Stage.entered? : Stage → Option Nat
  | .enters place _ => some place
  | _ => none

/-- The place of a middleware that comes to its end. One that stops does so as soon as it is entered. -/
def Stage.left? : Stage → Option Nat
  | .enters place (.ok (.stop _)) | .leaves place _ _ (.ok _) => some place
  | _ => none

variable (p : Pipeline) (c : ContextId)

/-- A run of a stage from one world to another, with its events. -/
def Stage.Run : Stage → World → List Event → World → Prop
  | .enters i answer, w, es, w' =>
    ∃ m, p.middleware[i]? = some m ∧ Job.Run (Code.job (m c (p.middleware.length - i))) w es answer w'
  | .leaves _ after came answer, w, es, w' => Job.Run (Code.job (after came)) w es answer w'
  | .reads answer, w, es, w' => Op.Yields (.onContext c .facts) w es answer w'
  | .converts request answer, w, es, w' => Job.Run (p.converters.convert request) w es answer w'
  | .looks token answer, w, es, w' => Op.Yields (.isSignalled token) w es answer w'
  | .calls handler arguments answer, w, es, w' =>
    Job.Run (Code.job (p.handlers handler arguments)) w es answer w'
  | .stores result answer, w, es, w' => Job.Run (Job.setResult c result) w es (.ok answer) w'
  | .takes answer, w, es, w' => Op.Yields (.onContext c .takeResult) w es answer w'
  | .sets name value answer, w, es, w' => Job.Run (Job.setOutput c name value) w es (.ok answer) w'

/-- Runs of stages one after another. What is left at the end are events of other tasks. -/
def Goes : List Stage → World → List Event → World → Prop
  | [], w, es, w' => Others es ∧ Leads w es w'
  | s :: stages, w, es, w' => ∃ es₁ v es₂, es = es₁ ++ es₂ ∧ s.Run p c w es₁ v ∧ Goes stages v es₂ w'

variable {p c} {s : Stage} {stages ss₁ ss₂ : List Stage}

theorem Stage.Run.leads (h : s.Run p c w es w') : Leads w es w' := by
  cases s with
  | enters => exact h.choose_spec.2.leads
  | reads | looks | takes => exact Op.Yields.leads h
  | _ => exact Job.Run.leads h

theorem Stage.Run.after_others (hothers : Others es₁) (hleads : Leads w es₁ v) (h : s.Run p c v es₂ w') :
    s.Run p c w (es₁ ++ es₂) w' := by
  cases s with
  | enters =>
    obtain ⟨m, hm, h⟩ := h
    exact ⟨m, hm, h.after_others hothers hleads⟩
  | reads | looks | takes => exact Op.Yields.after_others hothers hleads h
  | _ => exact Job.Run.after_others hothers hleads h

theorem Goes.append (h₁ : Goes p c ss₁ w es₁ v) (h₂ : Goes p c ss₂ v es₂ w') :
    Goes p c (ss₁ ++ ss₂) w (es₁ ++ es₂) w' := by
  induction ss₁ generalizing w es₁ with
  | cons s ss₁ ih =>
    obtain ⟨es₃, u, es₄, rfl, hs, h₁⟩ := h₁
    exact ⟨es₃, u, es₄ ++ es₂, List.append_assoc .., hs, ih h₁⟩
  | nil =>
    -- what others did at the end of the first stages counts for the next ones
    obtain ⟨hothers, hleads⟩ := h₁
    cases ss₂ with
    | nil => exact ⟨hothers.append h₂.1, leads_append.2 ⟨v, hleads, h₂.2⟩⟩
    | cons s ss₂ =>
      obtain ⟨es₃, u, es₄, rfl, hs, h₂⟩ := h₂
      exact ⟨es₁ ++ es₃, u, es₄, (List.append_assoc ..).symm, hs.after_others hothers hleads, h₂⟩

theorem Goes.leads (h : Goes p c stages w es w') : Leads w es w' := by
  induction stages generalizing w es with
  | nil => exact h.2
  | cons s stages ih =>
    obtain ⟨es₁, v, es₂, rfl, hs, h⟩ := h
    exact leads_append.2 ⟨v, hs.leads, ih h⟩

/-- Stages part where lists of them do. -/
theorem Goes.of_append (h : Goes p c (ss₁ ++ ss₂) w es w') :
    ∃ es₁ v es₂, es = es₁ ++ es₂ ∧ Goes p c ss₁ w es₁ v ∧ Goes p c ss₂ v es₂ w' := by
  induction ss₁ generalizing w es with
  | nil => exact ⟨[], w, es, rfl, ⟨others_nil, rfl⟩, h⟩
  | cons s ss₁ ih =>
    obtain ⟨es₁, v, es₂, rfl, hs, h⟩ := h
    obtain ⟨es₃, u, es₄, rfl, h₁, h₂⟩ := ih h
    exact ⟨es₁ ++ es₃, u, es₄, (List.append_assoc ..).symm, ⟨es₁, v, es₃, rfl, hs, h₁⟩, h₂⟩

theorem Goes.single (h : s.Run p c w es w') : Goes p c [s] w es w' :=
  ⟨es, w', [], (List.append_nil _).symm, h, others_nil, rfl⟩

/-! ## Runs of jobs as stages -/

/-- Which stages a job goes through, and with which result. -/
abbrev Kind (α : Type) := List Stage → Except Panic α → Prop

namespace Kind

/-- No stage, and a value. -/
def silent (a : α) : Kind α := fun ss r => ss = [] ∧ r = .ok a

/-- One stage, the answer of which is the result. -/
def single (stage : Except Panic α → Stage) : Kind α := fun ss r => ss = [stage r]

/-- One stage that does not panic. -/
def answered (stage : α → Stage) : Kind α := fun ss r => ∃ a, ss = [stage a] ∧ r = .ok a

/-- Stages that come to a value and those that go on with it, or stages that end with a panic. -/
def andThen (R : Kind α) (S : α → Kind β) : Kind β := fun ss r =>
  (∃ a ss₁ ss₂, ss = ss₁ ++ ss₂ ∧ R ss₁ (.ok a) ∧ S a ss₂ r) ∨ ∃ x, R ss (.error x) ∧ r = .error x

variable {S : α → Kind β} {ss : List Stage} {r : Except Panic β}

theorem andThen_answered {stage : α → Stage} :
    (answered stage).andThen S ss r ↔ ∃ a ss', ss = stage a :: ss' ∧ S a ss' r := by
  constructor
  · rintro (⟨_, _, ss', rfl, ⟨a, rfl, ⟨⟩⟩, h⟩ | ⟨_, ⟨_, _, ⟨⟩⟩, _⟩)
    exact ⟨_, ss', rfl, h⟩
  · rintro ⟨a, ss', rfl, h⟩
    exact .inl ⟨a, [stage a], ss', rfl, ⟨a, rfl, rfl⟩, h⟩

theorem andThen_single {stage : Except Panic α → Stage} : (single stage).andThen S ss r ↔
    (∃ a ss', ss = stage (.ok a) :: ss' ∧ S a ss' r) ∨ ∃ x, ss = [stage (.error x)] ∧ r = .error x := by
  constructor
  · rintro (⟨a, _, ss', rfl, rfl, h⟩ | ⟨x, rfl, rfl⟩)
    · exact .inl ⟨a, ss', rfl, h⟩
    · exact .inr ⟨x, rfl, rfl⟩
  · rintro (⟨a, ss', rfl, h⟩ | ⟨x, rfl, rfl⟩)
    · exact .inl ⟨a, [stage (.ok a)], ss', rfl, rfl, h⟩
    · exact .inr ⟨x, rfl, rfl⟩

end Kind

variable (p c) in
/-- Given the facts of the context, the runs of a job are those that fall into stages of a kind. -/
def Tells (facts : ContextFacts) (j : Job α) (R : Kind α) : Prop :=
  ∀ w es r w', c < w.contexts.length → (w.context c).facts = facts →
    (Job.Run j w es r w' ↔ ∃ stages, Goes p c stages w es w' ∧ R stages r)

namespace Tells

variable {facts : ContextFacts} {j : Job α} {f : α → Job β} {R R' : Kind α} {S : α → Kind β}

theorem congr (h : Tells p c facts j R) (hiff : ∀ ss r, R ss r ↔ R' ss r) : Tells p c facts j R' := by
  intro w es r w' hc hfacts
  rw [h w es r w' hc hfacts]
  exact exists_congr fun ss => and_congr_right fun _ => hiff ss r

theorem done (a : α) : Tells p c facts (.done a) (.silent a) := by
  intro w es r w' _ _
  constructor
  · rintro ⟨hothers, hleads, rfl⟩
    exact ⟨[], ⟨hothers, hleads⟩, rfl, rfl⟩
  · rintro ⟨_, hgoes, rfl, rfl⟩
    exact ⟨hgoes.1, hgoes.2, rfl⟩

/-- A job that is a stage. -/
theorem stage (stage : Except Panic α → Stage)
    (h : ∀ w es r w', Job.Run j w es r w' ↔ (stage r).Run p c w es w') : Tells p c facts j (.single stage) := by
  intro w es r w' _ _
  constructor
  · intro run
    exact ⟨[stage r], .single ((h w es r w').1 run), rfl⟩
  · rintro ⟨_, hgoes, rfl⟩
    obtain ⟨es₁, v, es₂, rfl, hs, hothers, hleads⟩ := hgoes
    exact ((h w es₁ r v).2 hs).before_others hothers hleads

/-- A job that is a stage and does not panic. -/
theorem answered (stage : α → Stage)
    (hends : ∀ w es r w', c < w.contexts.length → Job.Run j w es r w' → ∃ a, r = .ok a)
    (h : ∀ w es a w', Job.Run j w es (.ok a) w' ↔ (stage a).Run p c w es w') :
    Tells p c facts j (.answered stage) := by
  intro w es r w' hc _
  constructor
  · intro run
    obtain ⟨a, rfl⟩ := hends w es r w' hc run
    exact ⟨[stage a], .single ((h w es a w').1 run), a, rfl, rfl⟩
  · rintro ⟨_, hgoes, a, rfl, rfl⟩
    obtain ⟨es₁, v, es₂, rfl, hs, hothers, hleads⟩ := hgoes
    exact ((h w es₁ a v).2 hs).before_others hothers hleads

/-- An operation that is a stage. -/
theorem op (op : Op) (stage : op.Reply → Stage)
    (h : ∀ w es a w', op.Yields w es a w' ↔ (stage a).Run p c w es w') :
    Tells p c facts (Job.op op) (.answered stage) := by
  intro w es r w' _ _
  constructor
  · rintro ⟨es₁, es₂, a, v, rfl, hyields, hothers, hleads, rfl⟩
    exact ⟨[stage a], ⟨es₁, v, es₂, rfl, (h w es₁ a v).1 hyields, hothers, hleads⟩, a, rfl, rfl⟩
  · rintro ⟨_, hgoes, a, rfl, rfl⟩
    obtain ⟨es₁, v, es₂, rfl, hs, hothers, hleads⟩ := hgoes
    exact ⟨es₁, es₂, a, v, rfl, (h w es₁ a v).2 hs, hothers, hleads, rfl⟩

/-- Whenever the facts of the context are read, they are the same. -/
theorem read : Tells p c facts (Job.onContext c .facts) fun ss r => ss = [.reads facts] ∧ r = .ok facts := by
  intro w es r w' hc hfacts
  constructor
  · rintro ⟨es₁, es₂, a, v, rfl, hyields, hothers, hleads, rfl⟩
    obtain ⟨others, u, rfl, -, hbefore, rfl, rfl⟩ := id hyields
    have hread : (World.perform (.onContext c .facts) u).1 = facts := (hbefore.facts hc).2.trans hfacts
    rw [hread] at hyields ⊢
    exact ⟨[.reads facts], ⟨_, _, es₂, rfl, hyields, hothers, hleads⟩, rfl, rfl⟩
  · rintro ⟨_, hgoes, rfl, rfl⟩
    obtain ⟨es₁, v, es₂, rfl, hs, hothers, hleads⟩ := hgoes
    exact ⟨es₁, es₂, facts, v, rfl, hs, hothers, hleads, rfl⟩

/-- The stages of a job that goes on with the value of another are those of the two. -/
theorem bind (hj : Tells p c facts j R) (hf : ∀ a ss, R ss (.ok a) → Tells p c facts (f a) (S a)) :
    Tells p c facts (j >>= f) (R.andThen S) := by
  intro w es r w' hc hfacts
  have hkeeps : ∀ {es v}, Leads w es v → c < v.contexts.length ∧ (v.context c).facts = facts := fun h =>
    ⟨(h.facts hc).1, (h.facts hc).2.trans hfacts⟩
  constructor
  · intro run
    rcases run.bind_inv with ⟨a, es₁, es₂, v, rfl, run₁, run₂⟩ | ⟨x, rfl, run₁⟩
    · obtain ⟨hc₁, hfacts₁⟩ := hkeeps run₁.leads
      obtain ⟨ss₁, hgoes₁, hR⟩ := (hj w es₁ _ v hc hfacts).1 run₁
      obtain ⟨ss₂, hgoes₂, hS⟩ := (hf a ss₁ hR v es₂ r w' hc₁ hfacts₁).1 run₂
      exact ⟨ss₁ ++ ss₂, hgoes₁.append hgoes₂, .inl ⟨a, ss₁, ss₂, rfl, hR, hS⟩⟩
    · obtain ⟨ss, hgoes, hR⟩ := (hj w es _ w' hc hfacts).1 run₁
      exact ⟨ss, hgoes, .inr ⟨x, hR, rfl⟩⟩
  · rintro ⟨_, hgoes, ⟨a, ss₁, ss₂, rfl, hR, hS⟩ | ⟨x, hR, rfl⟩⟩
    · obtain ⟨es₁, v, es₂, rfl, hgoes₁, hgoes₂⟩ := hgoes.of_append
      obtain ⟨hc₁, hfacts₁⟩ := hkeeps hgoes₁.leads
      have run₂ := (hf a ss₁ hR v es₂ r w' hc₁ hfacts₁).2 ⟨ss₂, hgoes₂, hS⟩
      exact run₂.bind ((hj w es₁ _ v hc hfacts).2 ⟨ss₁, hgoes₁, hR⟩)
    · exact Job.Run.bind_panic ((hj w es _ w' hc hfacts).2 ⟨_, hgoes, hR⟩)

theorem reads {f : ContextFacts → Job β} {S : Kind β} (hf : Tells p c facts (f facts) S) :
    Tells p c facts (Job.onContext c .facts >>= f) fun ss r => ∃ ss', ss = .reads facts :: ss' ∧ S ss' r := by
  refine (bind (S := fun _ => S) read ?_).congr fun ss r => ⟨?_, ?_⟩
  · rintro a _ ⟨-, ha⟩
    obtain rfl := Except.ok.inj ha
    exact hf
  · rintro (⟨_, _, ss', rfl, ⟨rfl, -⟩, h⟩ | ⟨x, ⟨-, hx⟩, -⟩)
    · exact ⟨ss', rfl, h⟩
    · cases hx
  · rintro ⟨ss', rfl, h⟩
    exact .inl ⟨facts, [.reads facts], ss', rfl, ⟨rfl, rfl⟩, h⟩

end Tells

end Pipeline

end FunctionWorker
