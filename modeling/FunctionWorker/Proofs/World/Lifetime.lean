/-
The life of a context that is used by one call after another. What a call can do is said once, in `Does`: it is
refused with an error that tells the state and changes nothing, or it does one thing. From it follows, call by
call, that the state only moves forward, that the first disposal is the only one, and that at most one scope is
opened, which goes with the first disposal.
-/
import FunctionWorker.Proofs.World.Contexts

namespace FunctionWorker

variable {w w' : World} {c : ContextId}

/-! ## Calls -/

/-- The calls by which a context is used. -/
inductive ContextCall where
  | begin
  | complete
  | fault
  | dispose
  | setItem (key : String) (value : Datum)
  | setOutput (name : String) (value : OutputValue)
  | setResult (r : HandlerResult)
  | takeResult
  | takeOutputs
  | openServices

inductive ContextReply where
  | done
  | refused (e : ContextError)
  /-- Whether the context has been disposed of by this call. -/
  | disposed (first : Bool)
  | result (r : Option HandlerResult)
  | outputs (produced : List (String × OutputValue))
  | scope (s : ScopeId)

def ContextReply.ofUnit : Except ContextError Unit → ContextReply
  | .ok () => .done
  | .error e => .refused e

def ContextReply.ofScope : Except ContextError ScopeId → ContextReply
  | .ok s => .scope s
  | .error e => .refused e

namespace ContextCall

/-- A call as work of the worker. -/
def job (c : ContextId) : ContextCall → Job ContextReply
  | .begin => .ofUnit <$> Job.onContext c .begin
  | .complete => .ofUnit <$> Job.onContext c .complete
  | .fault => .ofUnit <$> Job.onContext c .fault
  | .dispose => .disposed <$> Job.dispose c
  | .setItem key value => .ofUnit <$> Job.setItem c key value
  | .setOutput name value => .ofUnit <$> Job.setOutput c name value
  | .setResult r => .ofUnit <$> Job.setResult c r
  | .takeResult => .result <$> Job.onContext c .takeResult
  | .takeOutputs => .outputs <$> Job.onContext c .takeOutputs
  | .openServices => .ofScope <$> Job.openServices c

end ContextCall

/-- A call that was made, with the worlds before and after it. -/
structure Made where
  call : ContextCall
  before : World
  reply : Except Panic ContextReply
  after : World

/-- A call that is made from beginning to end with nothing else in between. -/
def ContextCall.made (c : ContextId) (call : ContextCall) (w : World) : Made :=
  let (reply, after) := Routine.run Effect.alone (call.job c) w
  ⟨call, w, reply, after⟩

/-- Calls that are made one after another. -/
def madeCalls (c : ContextId) : World → List ContextCall → List Made
  | _, [] => []
  | w, call :: calls => call.made c w :: madeCalls c (call.made c w).after calls

/-! ## What a call can do -/

/-- Why nothing can be written to a context. -/
def ContextState.unwritable? : ContextState → Option ContextError
  | .executing => none
  | .disposed => some .disposed
  | s => some (.notExecuting s)

/-- The error with which a context refuses a call, if it does. -/
def ContextCall.refusal? (d : Definition) (s : ContextState) : ContextCall → Option ContextError
  | .begin => if s = .created then none else some (.invalidTransition s .executing)
  | .complete => if s = .executing then none else some (.invalidTransition s .resultSet)
  | .fault => if s = .created ∨ s = .executing then none else some (.invalidTransition s .faulted)
  | .setItem _ _ | .setResult _ => s.unwritable?
  | .setOutput name _ =>
    s.unwritable?.or (if d.declaresOutput name then none else some (.undeclaredOutput name))
  | .openServices => if s = .disposed then some .disposed else none
  | .dispose | .takeResult | .takeOutputs => none

/-- A world in which a context has become another. -/
def World.become (w : World) (c : ContextId) (x : Context) : World := { w with contexts := w.contexts.set c x }

/-- What a call on a context can do. -/
inductive Does (c : ContextId) (w : World) : ContextCall → ContextReply → World → Prop
  | refused {call e} (h : call.refusal? (w.context c).facts.definition (w.context c).state = some e) :
      Does c w call (.refused e) w
  | begins (h : (w.context c).state = .created) :
      Does c w .begin .done (w.become c { w.context c with state := .executing })
  | completes (h : (w.context c).state = .executing) :
      Does c w .complete .done (w.become c { w.context c with state := .resultSet })
  | faults (h : (w.context c).state = .created ∨ (w.context c).state = .executing) :
      Does c w .fault .done (w.become c { w.context c with state := .faulted })
  | setsItem {key value} (h : (w.context c).state = .executing) :
      Does c w (.setItem key value) .done (w.become c ((w.context c).putItem key value))
  | setsOutput {name value declared} (h : (w.context c).state = .executing)
      (hdeclared : (w.context c).facts.definition.outputName name = some declared) :
      Does c w (.setOutput name value) .done (w.become c ((w.context c).putOutput declared value))
  | setsResult {r} (h : (w.context c).state = .executing) :
      Does c w (.setResult r) .done (w.become c ((w.context c).putResult r))
  | takesResult :
      Does c w .takeResult (.result (w.context c).result) (w.become c { w.context c with result := none })
  | takesOutputs :
      Does c w .takeOutputs (.outputs (w.context c).outputs) (w.become c { w.context c with outputs := [] })
  | opens (h : (w.context c).state ≠ .disposed) (hnone : (w.context c).scope = none) :
      Does c w .openServices (.scope w.services.scopes.length)
        { w.become c { w.context c with scope := some w.services.scopes.length } with
          services := w.services.openScope.2 }
  | shares {s} (h : (w.context c).state ≠ .disposed) (hsome : (w.context c).scope = some s) :
      Does c w .openServices (.scope s) w
  | disposes (h : (w.context c).state ≠ .disposed) :
      Does c w .dispose (.disposed true)
        { w.become c { w.context c with state := .disposed, scope := none, items := [] } with
          services := (w.context c).scope.elim w.services w.services.dispose }
  | disposedBefore (h : (w.context c).state = .disposed) : Does c w .dispose (.disposed false) w

theorem context_become (hc : c < w.contexts.length) (x : Context) : (w.become c x).context c = x := by
  show (w.contexts.set c x).getD c default = x
  rw [getD_set hc, if_pos rfl]

theorem context_become_services (hc : c < w.contexts.length) (x : Context) (services : Services) :
    World.context { w.become c x with services } c = x := context_become hc x

theorem length_become (w : World) (c : ContextId) (x : Context) :
    (w.become c x).contexts.length = w.contexts.length := List.length_set

theorem become_become (w : World) (c : ContextId) (x y : Context) : (w.become c x).become c y = w.become c y := by
  unfold World.become
  dsimp only
  rw [List.set_set]

theorem become_self (hc : c < w.contexts.length) : w.become c (w.context c) = w := by
  unfold World.become World.context
  rw [List.getD_eq_getElem?_getD, List.getElem?_eq_getElem hc, Option.getD_some, List.set_getElem_self]

theorem move_of_mem {sources : List ContextState} {target : ContextState} {x : Context} (h : x.state ∈ sources) :
    x.move sources target = (.ok (), { x with state := target }) := if_pos (List.contains_iff_mem.2 h)

theorem move_of_not_mem {sources : List ContextState} {target : ContextState} {x : Context}
    (h : x.state ∉ sources) : x.move sources target = (.error (.invalidTransition x.state target), x) :=
  if_neg fun hmem => h (List.contains_iff_mem.1 hmem)

/-! ## What calls do -/

/-- What a call does is done by the call, and no panic comes of it. -/
def ContextCall.Sound (c : ContextId) (w : World) (call : ContextCall) : Prop :=
  ∃ reply, (call.made c w).reply = .ok reply ∧ Does c w call reply (call.made c w).after

variable {call : ContextCall}

theorem ContextCall.sound_of_run {reply : ContextReply}
    (h : Routine.run Effect.alone (call.job c) w = (.ok reply, w')) (hdoes : Does c w call reply w') :
    call.Sound c w := by
  unfold Sound made
  rw [h]
  exact ⟨reply, rfl, hdoes⟩

/-- A call that moves the state is done from one of the sources and refused from all other states. -/
theorem move_sound {sources : List ContextState} {target : ContextState} (hc : c < w.contexts.length)
    (hrun : Routine.run Effect.alone (call.job c) w =
      (.ok (.ofUnit ((w.context c).move sources target).1), w.become c ((w.context c).move sources target).2))
    (hdone : (w.context c).state ∈ sources →
      Does c w call .done (w.become c { w.context c with state := target }))
    (hrefused : (w.context c).state ∉ sources →
      call.refusal? (w.context c).facts.definition (w.context c).state =
        some (.invalidTransition (w.context c).state target)) : call.Sound c w := by
  by_cases h : (w.context c).state ∈ sources
  · rw [move_of_mem h] at hrun
    exact ContextCall.sound_of_run hrun (hdone h)
  · rw [move_of_not_mem h, become_self hc] at hrun
    exact ContextCall.sound_of_run hrun (.refused (hrefused h))

theorem begin_sound (hc : c < w.contexts.length) : ContextCall.begin.Sound c w := by
  refine move_sound hc rfl (fun h => .begins (List.mem_singleton.1 h)) fun h => if_neg fun hs => h ?_
  exact List.mem_singleton.2 hs

theorem complete_sound (hc : c < w.contexts.length) : ContextCall.complete.Sound c w := by
  refine move_sound hc rfl (fun h => .completes (List.mem_singleton.1 h)) fun h => if_neg fun hs => h ?_
  exact List.mem_singleton.2 hs

theorem fault_sound (hc : c < w.contexts.length) : ContextCall.fault.Sound c w := by
  refine move_sound hc rfl (fun h => .faults (List.mem_pair.1 h)) fun h => if_neg fun hs => h ?_
  exact List.mem_pair.2 hs

/-- Why nothing can be written is what the check says. -/
theorem checkExecuting_eq (x : Context) :
    x.checkExecuting = match x.state.unwritable? with
      | none => .ok ()
      | some e => .error e := by
  unfold Context.checkExecuting ContextState.unwritable?
  cases x.state <;> rfl

theorem unwritable_eq_none {s : ContextState} : s.unwritable? = none ↔ s = .executing := by
  cases s <;> decide

/-- A call that writes looks at the state first, which changes nothing. -/
theorem write_sound {f : Except ContextError Unit → Job (Except ContextError Unit)} (hc : c < w.contexts.length)
    (hjob : call.job c = ContextReply.ofUnit <$> (Job.onContext c .checkExecuting >>= f))
    (hf : ∀ e, f (.error e) = .done (.error e))
    (hrefused : ∀ e, (w.context c).state.unwritable? = some e →
      call.refusal? (w.context c).facts.definition (w.context c).state = some e)
    (hwrites : (w.context c).state = .executing → ∃ reply w',
      Routine.run Effect.alone (ContextReply.ofUnit <$> f (.ok ())) w = (.ok reply, w') ∧
        Does c w call reply w') : call.Sound c w := by
  have hrun : Routine.run Effect.alone (call.job c) w =
      Routine.run Effect.alone (ContextReply.ofUnit <$> f (w.context c).checkExecuting) w := by
    rw [hjob]
    show Routine.run Effect.alone (ContextReply.ofUnit <$> f _) (w.become c (w.context c)) = _
    rw [become_self hc]
  rw [checkExecuting_eq] at hrun
  cases h : (w.context c).state.unwritable? with
  | none =>
    rw [h] at hrun
    obtain ⟨reply, w', hf, hdoes⟩ := hwrites (unwritable_eq_none.1 h)
    exact ContextCall.sound_of_run (hrun.trans hf) hdoes
  | some e =>
    rw [h] at hrun
    dsimp only at hrun
    rw [hf] at hrun
    exact ContextCall.sound_of_run hrun (.refused (hrefused e h))

theorem setItem_sound (hc : c < w.contexts.length) (key : String) (value : Datum) :
    (ContextCall.setItem key value).Sound c w :=
  write_sound hc rfl (fun _ => rfl) (fun _ h => h) fun h => ⟨_, _, rfl, .setsItem h⟩

theorem setResult_sound (hc : c < w.contexts.length) (r : HandlerResult) : (ContextCall.setResult r).Sound c w :=
  write_sound hc rfl (fun _ => rfl) (fun _ h => h) fun h => ⟨_, _, rfl, .setsResult h⟩

theorem setOutput_sound (hc : c < w.contexts.length) (name : String) (value : OutputValue) :
    (ContextCall.setOutput name value).Sound c w := by
  refine write_sound hc rfl (fun _ => rfl) (fun e h => ?_) fun h => ?_
  · show (w.context c).state.unwritable?.or _ = some e
    rw [h, Option.some_or]
  · -- the definition is read before the output is put
    have hread : World.perform (.onContext c .facts) w = ((w.context c).facts, w) :=
      congrArg (Prod.mk _) (become_self hc)
    cases hname : (w.context c).facts.definition.outputName name with
    | some declared =>
      refine ⟨.done, _, (Job.run_op _ _).trans ?_, .setsOutput h hname⟩
      rw [hread]
      dsimp only [Routine.bind]
      rw [hname]
      rfl
    | none =>
      refine ⟨.refused (.undeclaredOutput name), w, (Job.run_op _ _).trans ?_, .refused ?_⟩
      · rw [hread]
        dsimp only [Routine.bind]
        rw [hname]
        rfl
      · unfold ContextCall.refusal? Definition.declaresOutput
        dsimp only
        rw [hname, h]
        rfl

theorem perform_scopeOf_none (h : (w.context c).scope = none) :
    World.perform (.scopeOf c) w = (w.services.scopes.length,
      { w.become c { w.context c with scope := some w.services.scopes.length } with
        services := w.services.openScope.2 }) := by
  simp only [World.perform, h]
  rfl

theorem perform_scopeOf_some {s : ScopeId} (h : (w.context c).scope = some s) :
    World.perform (.scopeOf c) w = (s, w) := by
  simp only [World.perform, h]
  rfl

theorem openServices_sound (hc : c < w.contexts.length) : ContextCall.openServices.Sound c w := by
  have hlook : World.perform (.onContext c .state) w = ((w.context c).state, w) :=
    congrArg (Prod.mk _) (become_self hc)
  by_cases h : (w.context c).state = .disposed
  · refine ContextCall.sound_of_run ((Job.run_op _ _).trans ?_) (.refused (e := .disposed) (if_pos h))
    rw [hlook, h]
    rfl
  · have hrun : Routine.run Effect.alone (ContextCall.openServices.job c) w =
        (.ok (.scope (World.perform (.scopeOf c) w).1), (World.perform (.scopeOf c) w).2) := by
      refine (Job.run_op _ _).trans ?_
      rw [hlook]
      dsimp only [Routine.bind]
      rw [if_neg h]
      rfl
    cases hscope : (w.context c).scope with
    | none =>
      rw [perform_scopeOf_none hscope] at hrun
      exact ContextCall.sound_of_run hrun (.opens h hscope)
    | some s =>
      rw [perform_scopeOf_some hscope] at hrun
      exact ContextCall.sound_of_run hrun (.shares h hscope)

/-- Letting go of what a context has that has just been marked. -/
theorem perform_step_become (hc : c < w.contexts.length) (s : ContextStep) (x : Context) (services : Services) :
    World.perform (.onContext c s) { w.become c x with services } =
      ((s.perform x).1, { w.become c (s.perform x).2 with services }) := by
  show ((s.perform ((w.become c x).context c)).1,
    { (w.become c x).become c (s.perform ((w.become c x).context c)).2 with services }) = _
  rw [context_become hc, become_become]

theorem perform_disposeScope_become (s : ScopeId) (x : Context) (services : Services) :
    World.perform (.disposeScope s) { w.become c x with services } =
      ((), { w.become c x with services := services.dispose s }) := rfl

theorem dispose_sound (hc : c < w.contexts.length) : ContextCall.dispose.Sound c w := by
  by_cases h : (w.context c).state = .disposed
  · have hmark : World.perform (.onContext c .markDisposed) w = (false, w) := by
      show ((w.context c).markDisposed.1, w.become c (w.context c).markDisposed.2) = _
      rw [show (w.context c).markDisposed = (false, w.context c) from if_pos h, become_self hc]
    refine ContextCall.sound_of_run ((Job.run_op _ _).trans ?_) (.disposedBefore h)
    rw [hmark]
    rfl
  · have hmark : World.perform (.onContext c .markDisposed) w =
        (true, { w.become c { w.context c with state := .disposed } with services := w.services }) := by
      show ((w.context c).markDisposed.1, w.become c (w.context c).markDisposed.2) = _
      rw [show (w.context c).markDisposed = (true, { w.context c with state := .disposed }) from if_neg h]
      rfl
    refine ContextCall.sound_of_run ((Job.run_op _ _).trans ?_) (.disposes h)
    rw [hmark]
    refine (Job.run_op _ _).trans ?_
    rw [perform_step_become hc]
    rw [show ContextStep.takeScope.perform { w.context c with state := .disposed } =
      ((w.context c).scope, { w.context c with state := .disposed, scope := none }) from rfl]
    cases (w.context c).scope with
    | none =>
      refine (Job.run_op (.onContext c .clearItems) _).trans ?_
      rw [perform_step_become hc]
      rfl
    | some s =>
      refine (Job.run_op (.disposeScope s) _).trans ((Job.run_op (.onContext c .clearItems) _).trans ?_)
      rw [perform_disposeScope_become, perform_step_become hc]
      rfl

/-- Every call on a context that is there ends without a panic and does what it can do. -/
theorem ContextCall.sound (hc : c < w.contexts.length) (call : ContextCall) : call.Sound c w :=
  match call with
  | .begin => begin_sound hc
  | .complete => complete_sound hc
  | .fault => fault_sound hc
  | .dispose => dispose_sound hc
  | .setItem key value => setItem_sound hc key value
  | .setOutput name value => setOutput_sound hc name value
  | .setResult r => setResult_sound hc r
  | .takeResult => sound_of_run rfl .takesResult
  | .takeOutputs => sound_of_run rfl .takesOutputs
  | .openServices => openServices_sound hc

/-! ## What is said of a call -/

/-- What may become of a state. -/
inductive Moves : ContextState → ContextState → Prop
  | stays {s} : Moves s s
  | begins : Moves .created .executing
  | completes : Moves .executing .resultSet
  | faults {s} (h : s = .created ∨ s = .executing) : Moves s .faulted
  | disposes {s} : Moves s .disposed

/-- The calls that would leave something in a context that has been disposed of. -/
def ContextCall.leaves : ContextCall → Bool
  | .setItem _ _ | .setOutput _ _ | .setResult _ | .openServices => true
  | _ => false

/-- Some call has been answered with a scope. -/
def OpenedIn (past : List Made) : Prop := ∃ p ∈ past, ∃ s, p.reply = .ok (.scope s)

def DisposedIn (past : List Made) : Prop := ∃ p ∈ past, p.call = .dispose

/-- The scope of a context after calls on it, given the services before the first. -/
inductive Lease (c : ContextId) (services : Services) (past : List Made) (w : World) : Prop
  | unopened (h : ¬ OpenedIn past) (hslot : (w.context c).scope = none) (hservices : w.services = services)
  | held (h : OpenedIn past) (hlive : ¬ DisposedIn past) (hslot : (w.context c).scope = some services.scopes.length)
      (hservices : w.services = { services with scopes := services.scopes ++ [{}] })
  | released (h : OpenedIn past) (hdisposed : DisposedIn past) (hslot : (w.context c).scope = none)
      (hservices : w.services = { services with scopes := services.scopes ++ [{ disposals := 1 }] })

/-- What holds of a call on a context that was made with the given facts and services, after the calls `past`. -/
structure Made.Orderly (c : ContextId) (facts : ContextFacts) (services : Services) (past : List Made)
    (m : Made) : Prop where
  facts : (m.before.context c).facts = facts
  does : ∃ reply, m.reply = .ok reply ∧ Does c m.before m.call reply m.after
  moves : Moves (m.before.context c).state (m.after.context c).state
  items : (m.before.context c).state = .executing ∨
    (m.after.context c).items = (m.before.context c).items ∨
    m.call = .dispose ∧ (m.after.context c).items = []
  outputs : (m.before.context c).state = .executing ∨
    (m.after.context c).outputs = (m.before.context c).outputs ∨
    m.call = .takeOutputs ∧ (m.after.context c).outputs = []
  result : (m.before.context c).state = .executing ∨
    (m.after.context c).result = (m.before.context c).result ∨
    m.call = .takeResult ∧ (m.after.context c).result = none
  first : m.call = .dispose → ∃ first, m.reply = .ok (.disposed first) ∧ (first = true ↔ ¬ DisposedIn past)
  same : ∀ s, m.reply = .ok (.scope s) → s = services.scopes.length
  lease : Lease c services (past ++ [m]) m.after
  closed : DisposedIn past → m.call.leaves → m.reply = .ok (.refused .disposed) ∧ m.after = m.before

/-! ## What calls keep -/

/-- How a context stands after calls on it. -/
structure Used (c : ContextId) (facts : ContextFacts) (services : Services) (past : List Made) (w : World) :
    Prop where
  present : c < w.contexts.length
  facts : (w.context c).facts = facts
  disposed : (w.context c).state = .disposed ↔ DisposedIn past
  lease : Lease c services past w

variable {facts : ContextFacts} {services : Services} {past : List Made} {m : Made} {reply : ContextReply}

theorem disposedIn_append : DisposedIn (past ++ [m]) ↔ DisposedIn past ∨ m.call = .dispose := by
  unfold DisposedIn
  simp only [List.mem_append, List.mem_singleton, or_and_right, exists_or, exists_eq_left]

theorem openedIn_append : OpenedIn (past ++ [m]) ↔ OpenedIn past ∨ ∃ s, m.reply = .ok (.scope s) := by
  unfold OpenedIn
  simp only [List.mem_append, List.mem_singleton, or_and_right, exists_or, exists_eq_left]

theorem Lease.congr {past' : List Made} (h : Lease c services past w) (hopened : OpenedIn past' ↔ OpenedIn past)
    (hdisposed : DisposedIn past' ↔ DisposedIn past) (hslot : (w'.context c).scope = (w.context c).scope)
    (hservices : w'.services = w.services) : Lease c services past' w' := by
  cases h with
  | unopened h hs hv => exact .unopened (mt hopened.1 h) (hslot.trans hs) (hservices.trans hv)
  | held h hlive hs hv =>
    exact .held (hopened.2 h) (mt hdisposed.1 hlive) (hslot.trans hs) (hservices.trans hv)
  | released h hd hs hv =>
    exact .released (hopened.2 h) (hdisposed.2 hd) (hslot.trans hs) (hservices.trans hv)

theorem openScope_eq (services : Services) :
    services.openScope.2 = { services with scopes := services.scopes ++ [{}] } := rfl

theorem dispose_last (services : Services) :
    Services.dispose { services with scopes := services.scopes ++ [{}] } services.scopes.length =
      { services with scopes := services.scopes ++ [{ disposals := 1 }] } := by
  unfold Services.dispose
  dsimp only
  rw [List.getElem?_concat_length]
  dsimp only
  rw [List.set_append_right _ _ le_rfl, Nat.sub_self]
  rfl

/-- What is kept by a call that is not the first disposal and opens no scope. -/
theorem Used.keeps {x : Context} (h : Used c facts services past m.before)
    (hopened : ∀ s, m.reply = .ok (.scope s) → OpenedIn past) (hdisposed : m.call = .dispose → DisposedIn past)
    (hafter : m.after = m.before.become c x) (hfacts : x.facts = (m.before.context c).facts)
    (hstate : x.state = .disposed ↔ (m.before.context c).state = .disposed)
    (hscope : x.scope = (m.before.context c).scope) : Used c facts services (past ++ [m]) m.after := by
  have hx : m.after.context c = x := by rw [hafter, context_become h.present]
  have ho : OpenedIn (past ++ [m]) ↔ OpenedIn past :=
    openedIn_append.trans (or_iff_left_of_imp fun ⟨s, hs⟩ => hopened s hs)
  have hd : DisposedIn (past ++ [m]) ↔ DisposedIn past := disposedIn_append.trans (or_iff_left_of_imp hdisposed)
  refine ⟨?_, ?_, ?_, ?_⟩
  · rw [hafter, length_become]
    exact h.present
  · rw [hx, hfacts, h.facts]
  · rw [hx, hd, hstate, h.disposed]
  · refine h.lease.congr ho hd (by rw [hx, hscope]) ?_
    rw [hafter]
    rfl

/-- A scope that is opened is the first one. -/
theorem Used.opens (h : Used c facts services past w) (hlive : (w.context c).state ≠ .disposed)
    (hnone : (w.context c).scope = none) : w.services = services := by
  cases h.lease with
  | unopened _ _ hv => exact hv
  | held _ _ hs _ => exact absurd (hs.symm.trans hnone) (Option.some_ne_none _)
  | released _ hd _ _ => exact absurd (h.disposed.2 hd) hlive

/-- A scope that is shared is the one that was opened. -/
theorem Used.shares {s : ScopeId} (h : Used c facts services past w) (hsome : (w.context c).scope = some s) :
    OpenedIn past ∧ s = services.scopes.length := by
  cases h.lease with
  | unopened _ hs _ => exact absurd (hs.symm.trans hsome) (Option.some_ne_none _).symm
  | held ho _ hs _ => exact ⟨ho, Option.some.inj (hsome.symm.trans hs)⟩
  | released _ _ hs _ => exact absurd (hs.symm.trans hsome) (Option.some_ne_none _).symm

/-- Every call that is answered with a scope is answered with the same. -/
theorem Used.same {s : ScopeId} (h : Used c facts services past w) (hdoes : Does c w call (.scope s) w') :
    s = services.scopes.length := by
  cases hdoes with
  | opens hlive hnone => rw [h.opens hlive hnone]
  | shares _ hsome => exact (h.shares hsome).2

/-- What calls keep, one call after others. -/
theorem Used.step (h : Used c facts services past m.before) (hreply : m.reply = .ok reply)
    (hdoes : Does c m.before m.call reply m.after) : Used c facts services (past ++ [m]) m.after := by
  obtain ⟨call, w, _, w'⟩ := m
  dsimp only at h hreply hdoes ⊢
  subst hreply
  have hself := (become_self h.present).symm
  cases hdoes with
  | refused hrefused =>
    refine h.keeps nofun ?_ hself rfl Iff.rfl rfl
    rintro rfl
    exact nomatch hrefused
  | begins hs => exact h.keeps nofun nofun rfl rfl (by simp [hs]) rfl
  | completes hs => exact h.keeps nofun nofun rfl rfl (by simp [hs]) rfl
  | faults hs => exact h.keeps nofun nofun rfl rfl (by rcases hs with hs | hs <;> simp [hs]) rfl
  | setsItem | setsOutput | setsResult | takesResult | takesOutputs =>
    exact h.keeps nofun nofun rfl rfl Iff.rfl rfl
  | opens hlive hnone =>
    have hservices := h.opens hlive hnone
    have hx := context_become h.present { w.context c with scope := some w.services.scopes.length }
    have hopened : ¬ DisposedIn past := mt h.disposed.2 hlive
    refine ⟨(length_become ..).symm ▸ h.present, ?_, ?_, .held ?_ ?_ ?_ ?_⟩
    · exact (congrArg Context.facts hx).trans h.facts
    · rw [disposedIn_append, or_iff_left nofun, ← h.disposed]
      exact ⟨(congrArg Context.state hx).symm.trans, (congrArg Context.state hx).trans⟩
    · exact openedIn_append.2 (.inr ⟨_, rfl⟩)
    · exact fun hd => (disposedIn_append.1 hd).elim hopened nofun
    · exact (congrArg Context.scope hx).trans (by rw [hservices])
    · show w.services.openScope.2 = _
      rw [hservices, openScope_eq]
  -- a scope that is shared has been opened before
  | shares _ hsome => exact h.keeps (fun _ _ => (h.shares hsome).1) nofun hself rfl Iff.rfl rfl
  | disposes hlive =>
    have hx := context_become h.present { w.context c with state := .disposed, scope := none, items := [] }
    refine ⟨(length_become ..).symm ▸ h.present, (congrArg Context.facts hx).trans h.facts,
      iff_of_true (congrArg Context.state hx) (disposedIn_append.2 (.inr rfl)), ?_⟩
    cases h.lease with
    | unopened ho hs hv =>
      refine .unopened (fun h => (openedIn_append.1 h).elim ho nofun) (congrArg Context.scope hx) ?_
      show (w.context c).scope.elim _ _ = _
      rw [hs]
      exact hv
    | held ho _ hs hv =>
      refine .released (openedIn_append.2 (.inl ho)) (disposedIn_append.2 (.inr rfl)) (congrArg Context.scope hx) ?_
      show (w.context c).scope.elim _ _ = _
      rw [hs, hv]
      exact dispose_last services
    | released _ hd _ _ => exact absurd (h.disposed.2 hd) hlive
  | disposedBefore hdisposed =>
    exact h.keeps nofun (fun _ => h.disposed.1 hdisposed) hself rfl Iff.rfl rfl

/-! ## What a call does in a context that stands -/

theorem Does.moves (h : Does c w call reply w') (hc : c < w.contexts.length) :
    Moves (w.context c).state (w'.context c).state := by
  cases h with
  | refused | shares | disposedBefore => exact .stays
  | begins hs =>
    rw [hs, context_become hc]
    exact .begins
  | completes hs =>
    rw [hs, context_become hc]
    exact .completes
  | faults hs =>
    rw [context_become hc]
    exact .faults hs
  | setsItem | setsOutput | setsResult | takesResult | takesOutputs =>
    rw [context_become hc]
    exact .stays
  | opens =>
    rw [context_become_services hc]
    exact .stays
  | disposes =>
    rw [context_become_services hc]
    exact .disposes

/-- Nothing is written to a context that is not executing; what it has can be taken away. -/
theorem Does.unwritten (h : Does c w call reply w') (hc : c < w.contexts.length)
    (hs : (w.context c).state ≠ .executing) :
    ((w'.context c).items = (w.context c).items ∨ call = .dispose ∧ (w'.context c).items = []) ∧
    ((w'.context c).outputs = (w.context c).outputs ∨ call = .takeOutputs ∧ (w'.context c).outputs = []) ∧
    ((w'.context c).result = (w.context c).result ∨ call = .takeResult ∧ (w'.context c).result = none) := by
  cases h with
  | refused | shares | disposedBefore => exact ⟨.inl rfl, .inl rfl, .inl rfl⟩
  | setsItem h | setsOutput h _ | setsResult h => exact absurd h hs
  | begins | completes | faults =>
    rw [context_become hc]
    exact ⟨.inl rfl, .inl rfl, .inl rfl⟩
  | takesResult =>
    rw [context_become hc]
    exact ⟨.inl rfl, .inl rfl, .inr ⟨rfl, rfl⟩⟩
  | takesOutputs =>
    rw [context_become hc]
    exact ⟨.inl rfl, .inr ⟨rfl, rfl⟩, .inl rfl⟩
  | opens =>
    rw [context_become_services hc]
    exact ⟨.inl rfl, .inl rfl, .inl rfl⟩
  | disposes =>
    rw [context_become_services hc]
    exact ⟨.inr ⟨rfl, rfl⟩, .inl rfl, .inl rfl⟩

/-- A disposal tells whether it is the first. -/
theorem Does.tells (h : Does c w .dispose reply w') :
    ∃ first, reply = .disposed first ∧ (first = true ↔ (w.context c).state ≠ .disposed) := by
  cases h with
  | refused h => exact nomatch h
  | disposes h => exact ⟨true, rfl, iff_of_true rfl h⟩
  | disposedBefore h => exact ⟨false, rfl, iff_of_false nofun (not_not_intro h)⟩

/-- A context that has been disposed of refuses everything that would be left in it. -/
theorem Does.closed (h : Does c w call reply w') (hs : (w.context c).state = .disposed) (hcall : call.leaves) :
    reply = .refused .disposed ∧ w' = w := by
  cases h with
  | refused h =>
    rw [hs] at h
    cases call with
    | setItem | setOutput | setResult | openServices =>
      obtain rfl := Option.some.inj h
      exact ⟨rfl, rfl⟩
    | _ => exact absurd hcall nofun
  | setsItem h | setsOutput h _ | setsResult h => exact nomatch hs.symm.trans h
  | opens h _ | shares h _ => exact absurd hs h
  | _ => exact absurd hcall nofun

theorem Used.orderly (h : Used c facts services past m.before) (hreply : m.reply = .ok reply)
    (hdoes : Does c m.before m.call reply m.after) : m.Orderly c facts services past where
  facts := h.facts
  does := ⟨reply, hreply, hdoes⟩
  moves := hdoes.moves h.present
  items := or_iff_not_imp_left.2 fun hs => (hdoes.unwritten h.present hs).1
  outputs := or_iff_not_imp_left.2 fun hs => (hdoes.unwritten h.present hs).2.1
  result := or_iff_not_imp_left.2 fun hs => (hdoes.unwritten h.present hs).2.2
  first := by
    intro hcall
    rw [hcall] at hdoes
    obtain ⟨first, rfl, hfirst⟩ := hdoes.tells
    exact ⟨first, hreply, hfirst.trans (not_congr h.disposed)⟩
  same := by
    intro s hs
    obtain rfl : reply = .scope s := Except.ok.inj (hreply.symm.trans hs)
    exact h.same hdoes
  lease := (h.step hreply hdoes).lease
  closed := by
    intro hdisposed hcall
    obtain ⟨rfl, hafter⟩ := hdoes.closed (h.disposed.2 hdisposed) hcall
    exact ⟨hreply, hafter⟩

/-! ## Calls one after another -/

/-- How the context stands before each of the calls. -/
theorem Used.madeCalls {calls : List ContextCall} {prior later : List Made}
    (h : Used c facts services prior w) (hmade : madeCalls c w calls = past ++ m :: later) :
    Used c facts services (prior ++ past) m.before ∧ m = m.call.made c m.before := by
  induction calls generalizing w prior past with
  | nil => exact absurd hmade.symm (List.append_ne_nil_of_right_ne_nil _ (List.cons_ne_nil _ _))
  | cons call calls ih =>
    rw [FunctionWorker.madeCalls] at hmade
    cases past with
    | nil =>
      obtain rfl := (List.cons.inj hmade).1
      rw [List.append_nil]
      exact ⟨h, rfl⟩
    | cons p past =>
      obtain ⟨rfl, hrest⟩ := List.cons.inj hmade
      obtain ⟨reply, hreply, hdoes⟩ := call.sound h.present
      have := ih (h.step (m := call.made c w) hreply hdoes) hrest
      rwa [List.append_assoc] at this

/-- However a new context is used, each call does what it can do in the state that the calls before it left,
which only moves forward; what is refused changes nothing, and nothing is written unless the context executes.
The first disposal is the only one that tells so, at most one scope is opened, which the first disposal
disposes of, and nothing is opened or written afterwards. -/
theorem madeCalls_orderly (facts : ContextFacts) (w : World) (calls : List ContextCall) {past later : List Made}
    {m : Made} (hmade : madeCalls w.contexts.length (World.perform (.newContext facts) w).2 calls =
      past ++ m :: later) : m.Orderly w.contexts.length facts w.services past := by
  obtain ⟨hc, hnew⟩ := context_new facts w
  have hnone : ∀ {P : Made → Prop}, ¬ ∃ p ∈ ([] : List Made), P p :=
    fun ⟨_, hp, _⟩ => absurd hp List.not_mem_nil
  have hstart : Used w.contexts.length facts w.services [] (World.perform (.newContext facts) w).2 :=
    ⟨hc, by rw [hnew], by rw [hnew]; exact iff_of_false nofun hnone,
      .unopened hnone (by rw [hnew]) rfl⟩
  obtain ⟨hused, hm⟩ := hstart.madeCalls hmade
  obtain ⟨reply, hreply, hdoes⟩ := m.call.sound hused.present
  rw [← hm] at hreply hdoes
  exact hused.orderly hreply hdoes

/-- A context whose scope is opened and which is disposed of twice. -/
theorem madeCalls_orderly_opened :
    let made := madeCalls 0 (World.perform (.newContext default) {}).2 [.begin, .openServices, .dispose, .dispose]
    ∃ first second, made.drop 2 = [first, second] ∧ first.reply = .ok (.disposed true) ∧
      second.reply = .ok (.disposed false) ∧ second.Orderly 0 default {} (made.take 3) :=
  ⟨_, _, rfl, rfl, rfl, madeCalls_orderly default {} [.begin, .openServices, .dispose, .dispose]
    (show _ = _ ++ _ :: [] from rfl)⟩

end FunctionWorker
