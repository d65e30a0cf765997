/-
What is an invocation's own. It draws the token of its registration and makes its context; whatever
it releases is one of these or a scope that was opened for the context. So invocations that go on at
the same time, along with tasks that release nothing, leave one another alone.
-/
import FunctionWorker.Proofs.Invocation.Course
import FunctionWorker.Proofs.Invocation.Pipeline
import FunctionWorker.Proofs.World.Disposal
import FunctionWorker.Proofs.World.History
import FunctionWorker.Proofs.World.Registrations

namespace FunctionWorker

variable {w w' : World} {c c' : ContextId} {reg reg' : Registration} {es : List Event} {ss ss' : List ScopeId}

/-! ## Operations of an invocation -/

/-- The operations that an invocation may ask for: it releases what is its own and nothing else. -/
inductive Owns (reg : Registration) (c : ContextId) (ss : List ScopeId) : Op → Prop
  | modest {op} (h : op.isRelease = false) : Owns reg c ss op
  | inserted : Owns reg c ss (.insertRegistration reg)
  | removed : Owns reg c ss (.removeRegistration reg)
  | frees {op} (h : Frees c ss op) : Owns reg c ss op

/-- A registration of another invocation is there after such an operation if it was before, unless the
invocation has just taken over its id. -/
theorem Owns.registered {op : Op} {r : Registration} (h : Owns reg c ss op) (hr : r ≠ reg)
    (hid : op = .insertRegistration reg → r.invocationId ≠ reg.invocationId) (w : World) :
    (World.perform op w).2.Registered r ↔ w.Registered r := by
  have hother (hinsert : ∀ r, op ≠ .insertRegistration r) (hremove : ∀ r, op ≠ .removeRegistration r) :
      (World.perform op w).2.Registered r ↔ w.Registered r := by
    unfold World.Registered
    rw [entries_perform hinsert hremove]
  cases h with
  | inserted => exact registered_insert (hid rfl) w
  | removed => exact registered_remove hr w
  | modest h =>
    refine hother ?_ ?_
    · rintro r rfl
      cases h
    · rintro r rfl
      cases h
  | frees h => cases h <;> exact hother nofun nofun

theorem Own.owns (h : Own (·.isRelease = false) es) : Own (Owns reg c ss) es := h.imp fun _ => .modest

theorem not_frees {op : Op} (h : op.isRelease = false) : ¬ Frees c ss op := by
  intro hfrees
  cases hfrees <;> cases h

/-- Nothing of another context, or of its scopes, is freed. -/
theorem Owns.spares {op : Op} (h : Owns reg c ss op) (hc : c ≠ c') (hss : ∀ s ∈ ss', s ∉ ss) :
    ¬ Frees c' ss' op := by
  intro hfrees
  cases hfrees with
  | disposed hs =>
    rcases h with hmodest | _ | _ | hfrees
    · cases hmodest
    · cases hfrees with
      | disposed hs' => exact hss _ hs hs'
  | _ =>
    rcases h with hmodest | _ | _ | hfrees
    · cases hmodest
    · cases hfrees
      exact hc rfl

theorem Owns.not_inserted {op : Op} (h : Owns reg c ss op) (hreg : reg ≠ reg') :
    op ≠ .insertRegistration reg' := by
  rintro rfl
  cases h with
  | modest hmodest => cases hmodest
  | inserted => exact hreg rfl
  | frees hfrees => cases hfrees

/-- A task that holds a registration and a context of its own: it drew the token, it made the context,
and it releases nothing else. -/
structure Holder (reg : Registration) (c : ContextId) (es : List Event) : Prop where
  drawn : ∃ u : World, ⟨true, .drawToken, u⟩ ∈ es ∧ reg.token = u.cancellations.tokens.length
  made : ∃ (facts : ContextFacts) (u : World), ⟨true, .newContext facts, u⟩ ∈ es ∧ c = u.contexts.length
  owns : Own (Owns reg c (opened c es)) es

namespace Invoker

/-! ## Stages -/

variable {v : Invoker} {request : InvocationRequest}

theorem Executes.modest {token : TokenId} {passage : Passage} (h : Executes v c token w es passage w') :
    Own (·.isRelease = false) es := by
  cases h with
  | refused begins => exact begins.modest rfl
  | cancelled begins asked => exact (begins.modest rfl).append (asked.modest rfl)
  | returned begins asked run =>
    exact (begins.modest rfl).append ((asked.modest rfl).append (run.own (v.pipeline.run_modest c)))
  | panicked begins asked run =>
    exact (begins.modest rfl).append ((asked.modest rfl).append (run.own (v.pipeline.run_modest c)))

theorem Settles.modest {p : Passed} {ending : Ending} {signalled : Bool}
    (h : Settles v p w es ending signalled w') : Own (·.isRelease = false) es := by
  cases h with
  | collected _ completed taken _ => exact (completed.modest rfl).append (taken.modest rfl)
  | spoiled _ completed taken _ asked =>
    exact (completed.modest rfl).append ((taken.modest rfl).append (asked.modest rfl))
  | failed _ faulted asked => exact (faulted.modest rfl).append (asked.modest rfl)

/-- The one scope that is disposed of with a context is the one that it has. -/
theorem Disposes.frees (h : Disposes c w es w') (hc : c < w.contexts.length)
    (hslot : ∀ s, (w.context c).scope = some s → s ∈ ss) (hopened : opened c es ⊆ ss) : Own (Frees c ss) es := by
  cases h with
  | again marked => exact marked.own .marked
  | withoutScope marked taken cleared =>
    exact (marked.own .marked).append ((taken.own .taken).append (cleared.own .cleared))
  | withScope marked taken disposed cleared =>
    rename_i es₁ es₂ es₃ es₄ s w₁ w₂ w₃
    have hs : s ∈ ss := by
      obtain ⟨es₀, u, rfl, -, hleads, hscope, -⟩ := id taken
      rcases (leads_append.2 ⟨_, marked.leads, hleads⟩).slot_opened hc hscope.symm with hbefore | hlater
      · exact hslot s hbefore
      · rw [opened_append, List.mem_append] at hlater
        refine hopened ?_
        rw [opened_append, opened_append, opened_append]
        simp only [List.mem_append]
        tauto
    exact (marked.own .marked).append ((taken.own .taken).append ((disposed.own (.disposed hs)).append
      (cleared.own .cleared)))

theorem Settles.leads {p : Passed} {ending : Ending} {signalled : Bool}
    (h : Settles v p w es ending signalled w') : Leads w es w' := by
  cases h with
  | collected _ completed taken _ => exact leads_append.2 ⟨_, completed.leads, taken.leads⟩
  | spoiled _ completed taken _ asked =>
    exact leads_append.2 ⟨_, completed.leads, leads_append.2 ⟨_, taken.leads, asked.leads⟩⟩
  | failed _ faulted asked => exact leads_append.2 ⟨_, faulted.leads, asked.leads⟩

theorem Disposes.leads (h : Disposes c w es w') : Leads w es w' := by
  cases h with
  | again marked => exact marked.leads
  | withoutScope marked taken cleared =>
    exact leads_append.2 ⟨_, marked.leads, leads_append.2 ⟨_, taken.leads, cleared.leads⟩⟩
  | withScope marked taken disposed cleared =>
    exact leads_append.2 ⟨_, marked.leads, leads_append.2 ⟨_, taken.leads,
      leads_append.2 ⟨_, disposed.leads, cleared.leads⟩⟩⟩

/-! ## From the making of the context on -/

/-- An invocation that has made its context in the world `u` and has come to the end of its pipeline
since. -/
structure Made (request : InvocationRequest) (p : Passed) (before : List Event) (u : World)
    (live : List Event) (w : World) : Prop where
  context : p.context = u.contexts.length
  drawn : ∃ x : World, ⟨true, .drawToken, x⟩ ∈ before ∧ p.token = x.cancellations.tokens.length
  registered : ∃ x, ⟨true, .insertRegistration ⟨request.invocationId, p.token⟩, x⟩ ∈ before
  prepared : Own (fun op => op.isRelease = false ∨ op = .insertRegistration ⟨request.invocationId, p.token⟩) before
  modest : Own (·.isRelease = false) live
  leads : Leads (World.perform (.newContext (request.factsFor p.definition p.token)) u).2 live w

theorem Passes.made {p : Passed} (h : Passes v request w es p w') :
    ∃ before u live, es = before ++ ⟨true, .newContext (request.factsFor p.definition p.token), u⟩ :: live ∧
      Made request p before u live w' := by
  obtain ⟨found, drawn, registered, created, executed, read⟩ := h
  rename_i es₀ es₁ es₂ es₃ es₄ es₅ d token c passage w₀ w₁ w₂ w₃ w₄
  obtain ⟨others₁, x, hes₁, -, -, htoken, -⟩ := id drawn
  obtain ⟨others₂, y, hes₂, -⟩ := id registered
  obtain ⟨others₃, u, rfl, hothers₃, -, hc, rfl⟩ := created
  refine ⟨es₀ ++ (es₁ ++ (es₂ ++ others₃)), u, es₄ ++ es₅, ?_, hc, ⟨x, ?_, htoken⟩, ⟨y, ?_⟩, ?_, ?_, ?_⟩
  · simp only [List.append_assoc, List.cons_append, List.nil_append]
  · rw [hes₁]
    simp only [List.mem_append, List.mem_singleton, or_true, true_or]
  · rw [hes₂]
    simp only [List.mem_append, List.mem_singleton, or_true, true_or]
  · exact (found.own (.inl rfl)).append ((drawn.own (.inl rfl)).append ((registered.own (.inr rfl)).append
      hothers₃.own))
  · exact executed.modest.append (read.modest rfl)
  · exact leads_append.2 ⟨_, executed.leads, read.leads⟩

theorem Passes.found {p : Passed} (h : Passes v request w es p w') :
    ∃ es₁ es₂ w₀, es = es₁ ++ es₂ ∧ Op.Yields (.findFunction request.functionId) w es₁ (some p.definition) w₀ := by
  obtain ⟨found⟩ := h
  exact ⟨_, _, _, rfl, found⟩

/-- A context that has just been made holds no scope. -/
theorem Made.holds {p : Passed} {before live : List Event} {u : World} (h : Made request p before u live w) :
    Holds p.context [] (World.perform (.newContext (request.factsFor p.definition p.token)) u).2 := by
  obtain ⟨hlt, hnew⟩ := context_new (request.factsFor p.definition p.token) u
  rw [← h.context] at hlt hnew
  refine ⟨hlt, ?_, ?_, fun s hs => absurd hs List.not_mem_nil⟩
  · rw [hnew]
    exact nofun
  · rw [hnew]
    rfl

theorem Made.holder {p : Passed} {before live es₂ es₃ : List Event} {u w₁ : World} {ending : Ending}
    {signalled : Bool} (made : Made request p before u live w) (settles : Settles v p w es₂ ending signalled w₁)
    (releases : Releases request p w₁ es₃ w') :
    Holder ⟨request.invocationId, p.token⟩ p.context
      (before ++ ⟨true, .newContext (request.factsFor p.definition p.token), u⟩ :: (live ++ (es₂ ++ es₃))) := by
  obtain ⟨removed, disposed, others, -⟩ := releases
  rename_i es₄ es₅ es₆ w₂ w₃
  obtain ⟨x, hx, htoken⟩ := made.drawn
  refine ⟨⟨x, List.mem_append_left _ hx, htoken⟩,
    ⟨_, u, List.mem_append_right _ (List.mem_cons_self ..), made.context⟩, ?_⟩
  generalize hall : before ++ _ :: (live ++ (es₂ ++ (es₄ ++ (es₅ ++ es₆)))) = all
  have hlive : live ++ (es₂ ++ es₄) ⊆ all := by
    rw [← hall]
    intro e he
    simp only [List.mem_append, List.mem_cons] at he ⊢
    tauto
  have hdisposed : es₅ ⊆ all := by
    rw [← hall]
    intro e he
    simp only [List.mem_append, List.mem_cons]
    tauto
  have hleads := leads_append.2 ⟨_, made.leads, leads_append.2 ⟨_, settles.leads, removed.leads⟩⟩
  -- a new context has no scope, so the one that it has at its end was opened since
  have hslot : ∀ s, (w₂.context p.context).scope = some s → s ∈ opened p.context all := by
    intro s hs
    rcases hleads.slot_opened made.holds.present hs with hnew | hmem
    · have hnone := made.holds.slot
      rw [hnew] at hnone
      cases hnone
    · exact opened_subset hlive hmem
  have hpresent : p.context < w₂.contexts.length := lt_of_lt_of_le made.holds.present (contexts_grow.leads hleads)
  have hfrees := disposed.frees hpresent hslot (opened_subset hdisposed)
  have hbefore : Own (Owns ⟨request.invocationId, p.token⟩ p.context (opened p.context all)) before := by
    refine made.prepared.imp fun op hop => ?_
    rcases hop with hmodest | rfl
    · exact .modest hmodest
    · exact .inserted
  have hreleases := (removed.own .removed).append ((hfrees.imp fun _ => Owns.frees).append others.own)
  have hafter := made.modest.owns.append (settles.modest.owns.append hreleases)
  have howns := hbefore.append
    (hafter.cons (e := ⟨true, .newContext (request.factsFor p.definition p.token), u⟩) (.modest rfl))
  rwa [hall] at howns

/-- Every invocation is the holder of what it draws, unless there is no such function. -/
theorem invoke_holder {r : Except Panic InvocationResponse} (run : Job.Run (v.invoke request) w es r w') :
    Own (·.isRelease = false) es ∨ ∃ reg c, Holder reg c es := by
  obtain ⟨course, takes, -⟩ := invoke_takes run
  cases takes with
  | unknown found others leads => exact .inl ((found.modest rfl).append others.own)
  | loaded passes settles releases =>
    obtain ⟨before, u, live, rfl, made⟩ := passes.made
    have hholder := made.holder settles releases
    rw [List.append_assoc, List.cons_append]
    exact .inr ⟨_, _, hholder⟩

end Invoker

/-! ## Crowds -/

/-- Events with which a job begins its run. -/
def Job.Begins {α : Type} (j : Job α) (w : World) (es : List Event) : Prop :=
  ∃ more r w', Job.Run j w (es ++ more) r w'

theorem Job.Run.begins {α : Type} {j : Job α} {r : Except Panic α} (h : Job.Run j w es r w') : j.Begins w es :=
  ⟨[], r, w', (List.append_nil es).symm ▸ h⟩

/-- Tasks that go on at the same time: each is an invocation, which may be over, under way or still to
begin, or it releases nothing. -/
def Crowd (w : World) (history : List Deed) : Prop :=
  ∀ t, Own (·.isRelease = false) (view t history) ∨
    ∃ (v : Invoker) (request : InvocationRequest), (v.invoke request).Begins w (view t history)

/-- What an invocation holds is left alone by the others of a crowd. -/
theorem Crowd.apart {history : List Deed} {t : Nat} (crowd : Crowd w history) (holder : Holder reg c (view t history))
    {e : Event} (he : e ∈ view t history) (hm : e.mine = false) :
    ¬ Frees c (opened c (view t history)) e.op ∧ e.op ≠ .insertRegistration reg := by
  obtain ⟨mine, op, u⟩ := e
  cases hm
  obtain ⟨t', ht, hown⟩ := view_task he
  have hmodest (h : op.isRelease = false) :
      ¬ Frees c (opened c (view t history)) op ∧ op ≠ .insertRegistration reg := by
    refine ⟨not_frees h, ?_⟩
    rintro rfl
    cases h
  -- the other invocation may have its token or context still to draw, so its run is followed to the end
  rcases crowd t' with hothers | ⟨v, request, more, r, w', hrun⟩
  · exact hmodest (hothers _ hown rfl)
  · rcases Invoker.invoke_holder hrun with hothers | ⟨reg', c', holder'⟩
    · exact hmodest (hothers _ (List.mem_append_left _ hown) rfl)
    · have howns := holder'.owns _ (List.mem_append_left _ hown) rfl
      obtain ⟨x, hx, htoken⟩ := holder.drawn
      obtain ⟨x', hx', htoken'⟩ := holder'.drawn
      obtain ⟨facts, y, hy, hc⟩ := holder.made
      obtain ⟨facts', y', hy', hc'⟩ := holder'.made
      have hcontexts : c' ≠ c := by
        rw [hc, hc']
        exact contexts_apart hrun.leads hy' (List.mem_append_left _ (view_others hy ht.symm))
      have htokens : reg'.token ≠ reg.token := by
        rw [htoken, htoken']
        exact tokens_apart hrun.leads hx' (List.mem_append_left _ (view_others hx ht.symm))
      have hscopes : ∀ s ∈ opened c (view t history), s ∉ opened c' (view t' history ++ more) := by
        intro s hs
        rw [opened_view c t t'] at hs
        refine opened_apart hrun.leads hcontexts.symm ?_
        rw [opened_append]
        exact List.mem_append_left _ hs
      exact ⟨howns.spares hcontexts hscopes, howns.not_inserted fun heq => htokens (heq ▸ rfl)⟩

end FunctionWorker
