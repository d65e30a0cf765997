/-
The life of a worker that is asked for one thing after another, each being done before the next one. Its
state only moves forward and the table of functions only grows. A run of a job that is alone is told by
its first operation and what is left of it; so what one turn can do is said once, in `Turn.Moves`, and
what holds of a whole life follows turn by turn.
-/
import FunctionWorker.Proofs.Worker.Requests
import FunctionWorker.Proofs.World.Operations

namespace FunctionWorker

variable {α β : Type} {w w' : World}

/-! ## Jobs that are alone -/

/-- A run of a job with no operation of other tasks in it. -/
def Job.Alone (j : Job α) (w : World) (r : Except Panic α) (w' : World) : Prop :=
  ∃ es, Mine es ∧ Job.Run j w es r w'

namespace Job.Alone

variable {j : Job α} {f : α → Job β} {r : Except Panic α}

/-- Every job has a run of its own in every world. -/
theorem total (j : Job α) (w : World) : ∃ r w', j.Alone w r w' := by
  obtain ⟨es, hmine, hrun⟩ := Job.run_alone j w
  exact ⟨_, _, es, hmine, hrun⟩

theorem pure_inv {a : α} (h : (pure a : Job α).Alone w r w') : r = .ok a ∧ w' = w := by
  obtain ⟨es, hmine, hothers, hleads, hr⟩ := h
  rw [hmine.eq_nil hothers] at hleads
  exact ⟨hr, hleads.symm⟩

theorem op_inv {op : Op} {f : op.Reply → Job β} {r : Except Panic β} (h : (Job.op op >>= f).Alone w r w') :
    (f (World.perform op w).1).Alone (World.perform op w).2 r w' := by
  obtain ⟨es, hmine, hrun⟩ := h
  obtain ⟨es₁, es₂, a, v, rfl, ⟨es₃, u, rfl, hothers, hleads, rfl, rfl⟩, hrest⟩ := hrun.op_inv
  rw [hmine.left.left.eq_nil hothers] at hleads
  cases hleads
  exact ⟨es₂, hmine.right, hrest⟩

theorem now_inv {f : Nat → Job β} {r : Except Panic β} (h : Job.Alone (Work.now >>= f) w r w') :
    ∃ ms, (f ms).Alone w r w' := by
  obtain ⟨es, hmine, es₁, es₂, ms, v, rfl, ⟨hothers, hleads⟩, hrest⟩ := h
  rw [hmine.left.eq_nil hothers] at hleads
  cases hleads
  exact ⟨ms, es₂, hmine.right, hrest⟩

theorem watch_inv {graceMs : Nat} {r : Except Panic Unit} (h : Job.Alone (Work.watch graceMs) w r w') :
    r = .ok () ∧ w' = w := by
  obtain ⟨es, hmine, es₁, es₂, a, v, rfl, ⟨hothers, hleads⟩, hothers₂, hleads₂, hr⟩ := h
  rw [hmine.left.eq_nil hothers] at hleads
  rw [hmine.right.eq_nil hothers₂] at hleads₂
  exact ⟨hr, hleads₂.symm.trans hleads.symm⟩

theorem bind_inv {r : Except Panic β} (h : (j >>= f).Alone w r w') :
    (∃ a v, j.Alone w (.ok a) v ∧ (f a).Alone v r w') ∨ ∃ p, r = .error p ∧ j.Alone w (.error p) w' := by
  obtain ⟨es, hmine, hrun⟩ := h
  rcases hrun.bind_inv with ⟨a, es₁, es₂, v, rfl, h₁, h₂⟩ | ⟨p, rfl, h₁⟩
  · exact .inl ⟨a, v, ⟨es₁, hmine.left, h₁⟩, es₂, hmine.right, h₂⟩
  · exact .inr ⟨p, rfl, es, hmine, h₁⟩

theorem map_inv {g : α → β} {r : Except Panic β} (h : (g <$> j).Alone w r w') :
    ∃ b, j.Alone w b w' ∧ r = b.map g := by
  rcases bind_inv (f := fun a => pure (g a)) h with ⟨a, v, hj, hrest⟩ | ⟨p, rfl, hj⟩
  · obtain ⟨rfl, rfl⟩ := hrest.pure_inv
    exact ⟨_, hj, rfl⟩
  · exact ⟨_, hj, rfl⟩

theorem assoc {γ : Type} {g : β → Job γ} {r : Except Panic γ} (h : ((j >>= f) >>= g).Alone w r w') :
    (j >>= fun a => f a >>= g).Alone w r w' := by
  obtain ⟨es, hmine, hrun⟩ := h
  exact ⟨es, hmine, hrun.assoc⟩

end Job.Alone

theorem lifecycle_perform {op : Op} (h : op.isLifecycle = false) (w : World) :
    (World.perform op w).2.state = w.state ∧ (World.perform op w).2.functions = w.functions := by
  cases op with
  | openState | initialise | closeState | insertFunction d => cases h
  | scopeOf c =>
    simp only [World.perform]
    split <;> exact ⟨rfl, rfl⟩
  | reload vars directory =>
    simp only [World.perform]
    split <;> exact ⟨rfl, rfl⟩
  | _ => exact ⟨rfl, rfl⟩

/-- A job that serves the worker as it is leaves its state and its functions alone. -/
theorem Job.Alone.serves {j : Job α} {r : Except Panic α} (h : j.Alone w r w') (hj : j.Serves) :
    w'.state = w.state ∧ w'.functions = w.functions := by
  obtain ⟨es, hmine, hrun⟩ := h
  have hown := hrun.own (asksOnly_of_asks (hj.imp fun _ => Effect.Serves.of))
  refine hrun.leads.keeps (P := fun x => x.state = w.state ∧ x.functions = w.functions) (fun e he hx => ?_) ⟨rfl, rfl⟩
  obtain ⟨hstate, hfunctions⟩ := lifecycle_perform (hown e he (hmine e he)) e.before
  exact ⟨hstate.trans hx.1, hfunctions.trans hx.2⟩

/-! ## The table of functions -/

namespace FunctionTable

/-- The ids of the functions that are loaded, in the order of their loading. -/
def ids (t : FunctionTable) : List String := t.definitions.map (·.id)

theorem find?_eq_none {t : FunctionTable} {id : String} : t.find? id = none ↔ id ∉ t.ids := by
  unfold find? ids
  rw [List.find?_eq_none, List.mem_map]
  constructor
  · rintro h ⟨d, hd, rfl⟩
    exact h d hd (beq_self_eq_true _)
  · intro h d hd hid
    exact h ⟨d, hd, beq_iff_eq.1 hid⟩

/-- What is found in a table is found in every longer one. -/
theorem find?_of_longer {t t' : FunctionTable} {id : String} {d : Definition} (h : t.definitions <+: t'.definitions)
    (hd : t.find? id = some d) : t'.find? id = some d := by
  obtain ⟨more, hmore⟩ := h
  unfold find? at hd ⊢
  rw [← hmore, List.find?_append, hd, Option.some_or]

theorem insert_of_fresh {t : FunctionTable} {d : Definition} (h : t.find? d.id = none) :
    t.insert d = some ⟨t.definitions ++ [d]⟩ := by
  unfold insert
  rw [h]
  rfl

theorem insert_of_taken {t : FunctionTable} {d : Definition} (h : t.find? d.id ≠ none) : t.insert d = none := by
  unfold insert
  exact if_pos (Option.isSome_iff_ne_none.2 h)

end FunctionTable

theorem perform_insert_of_fresh {d : Definition} (h : w.functions.find? d.id = none) :
    World.perform (.insertFunction d) w = (true, { w with functions := ⟨w.functions.definitions ++ [d]⟩ }) := by
  simp only [World.perform, FunctionTable.insert_of_fresh h]
  rfl

theorem perform_insert_of_taken {d : Definition} (h : w.functions.find? d.id ≠ none) :
    World.perform (.insertFunction d) w = (false, w) := by
  simp only [World.perform, FunctionTable.insert_of_taken h]
  rfl

theorem perform_initialise_of_none (h : w.state.initialised = none) :
    World.perform .initialise w = (.error w.state, w) := by
  simp only [World.perform, h]

theorem perform_initialise_of_some {s : WorkerState} (h : w.state.initialised = some s) :
    World.perform .initialise w = (.ok (), { w with state := s }) := by
  simp only [World.perform, h]

/-- The definition that is made for a load request has the id of the request. -/
theorem Catalog.instantiate_id {c : Catalog} {r : LoadRequest} {d : Definition} (h : c.instantiate r = .ok d) :
    d.id = r.functionId := by
  unfold Catalog.instantiate at h
  split at h
  · unfold CatalogEntry.instantiate at h
    dsimp only at h
    split at h <;> cases h
    rfl
  · cases h

/-! ## Requests -/

/-- How far a worker is on its way. -/
def WorkerState.rank : WorkerState → Nat
  | .unstarted => 0
  | .handshaking => 1
  | .ready => 2
  | .closed => 3

/-- What a worker refuses to do in a state: to list, load or run functions unless it is ready, and to be
initialised before its stream is opened or once it is closed. -/
def WorkerState.refuses (s : WorkerState) : Message → Bool
  | .initRequest _ => s == .unstarted || s == .closed
  | .metadataRequest _ | .loadRequest _ | .invocationRequest _ => s != .ready
  | _ => false

namespace Worker

variable {v : Worker}

/-- The failure that tells in which state a request was refused. -/
def unready (s : WorkerState) : ExceptionRecord where
  typeName := "not_ready"
  message := "worker is not ready (state: " ++ s.name ++ ")"
  source := workerSource

/-- The response to a request that failed as a whole. -/
def refusal (v : Worker) (e : ExceptionRecord) : Message → Option Message
  | .initRequest _ => some (.initResponse ⟨version, v.capabilities, v.metadata, .failure e⟩)
  | .metadataRequest _ => some (.metadataResponse ⟨[], false, .failure e⟩)
  | .loadRequest r => some (.loadResponse ⟨r.functionId, .failure e⟩)
  | .invocationRequest r =>
    some (.invocationResponse ⟨r.invocationId, [], none, .failure e, r.traceContext, r.retryContext⟩)
  | _ => none

theorem start_inv {r : Except Panic (Option Envelope)} (h : v.start.Alone w r w') :
    w' = { w with state := w.state.opened } := by
  obtain ⟨ms, hrest⟩ := Job.Alone.now_inv h.op_inv
  exact hrest.pure_inv.2

theorem ensureReady_inv {f : Except WorkerError Unit → Job β} {r : Except Panic β}
    (h : (ensureReady >>= f).Alone w r w') :
    w.state = .ready ∧ (f (.ok ())).Alone w r w' ∨
      w.state ≠ .ready ∧ (f (.error (.notReady w.state.name))).Alone w r w' := by
  have hrest : ((if w.state = .ready then pure (.ok ()) else pure (.error (.notReady w.state.name))) >>= f).Alone
      w r w' := h.assoc.op_inv
  by_cases hready : w.state = .ready
  · rw [if_pos hready] at hrest
    exact .inl ⟨hready, hrest⟩
  · rw [if_neg hready] at hrest
    exact .inr ⟨hready, hrest⟩

/-- An init request makes the worker ready, or is refused. -/
theorem init_inv {r : InitRequest} {a : Except Panic Message} (h : (v.init r).Alone w a w') :
    (w.state.refuses (.initRequest r) = false ∧ (w.state = .handshaking ∨ w.state = .ready) ∧
        w'.state = .ready ∧ w'.functions = w.functions) ∨
      w.state.refuses (.initRequest r) = true ∧ w' = w ∧
        ∃ m, v.refusal (unready w.state) (.initRequest r) = some m ∧ a = .ok m := by
  have h := h.op_inv
  have hcases : w.state.initialised = none ∨ w.state.initialised = some .ready := by
    cases w.state <;> simp [WorkerState.initialised]
  rcases hcases with hnone | hsome
  · rw [perform_initialise_of_none hnone] at h
    obtain ⟨ha, rfl⟩ := h.pure_inv
    refine .inr ⟨?_, rfl, _, rfl, ha⟩
    cases hs : w'.state <;> rw [hs] at hnone <;> first | rfl | cases hnone
  · rw [perform_initialise_of_some hsome] at h
    have hstate : w.state = .handshaking ∨ w.state = .ready := by
      cases hs : w.state <;> rw [hs] at hsome <;> first | exact .inl rfl | exact .inr rfl | cases hsome
    refine .inl ⟨by rcases hstate with hs | hs <;> rw [hs] <;> rfl, hstate, ?_⟩
    dsimp only at h
    split at h
    · obtain ⟨-, rfl⟩ := h.op_inv.pure_inv
      exact ⟨rfl, rfl⟩
    · obtain ⟨-, rfl⟩ := h.pure_inv
      exact ⟨rfl, rfl⟩

/-- A load request puts one definition into the table, or changes nothing. -/
theorem load_inv {r : LoadRequest} {a : Except Panic Message} (h : (v.load r).Alone w a w') :
    (w.state ≠ .ready ∧ w' = w ∧ a = .ok (.loadResponse ⟨r.functionId, .failure (unready w.state)⟩)) ∨
      (w.state = .ready ∧ w' = w ∧ ∃ e, a = .ok (.loadResponse ⟨r.functionId, .failure e⟩)) ∨
      (w.state = .ready ∧ a = .ok (.loadResponse ⟨r.functionId, .success⟩) ∧
        ∃ d, d.id = r.functionId ∧ w.functions.find? d.id = none ∧
          w' = { w with functions := ⟨w.functions.definitions ++ [d]⟩ }) := by
  rcases ensureReady_inv h.assoc with ⟨hready, h⟩ | ⟨hready, h⟩
  · right
    dsimp only at h
    cases hd : v.catalog.instantiate r with
    | error e =>
      rw [hd] at h
      obtain ⟨ha, hw⟩ := h.pure_inv
      exact .inl ⟨hready, hw, _, ha⟩
    | ok d =>
      rw [hd] at h
      have h := h.assoc.op_inv
      by_cases hfind : w.functions.find? d.id = none
      · rw [perform_insert_of_fresh hfind] at h
        obtain ⟨ha, hw⟩ := h.pure_inv
        exact .inr ⟨hready, ha, d, Catalog.instantiate_id hd, hfind, hw⟩
      · rw [perform_insert_of_taken hfind] at h
        obtain ⟨ha, hw⟩ := h.pure_inv
        exact .inl ⟨hready, hw, _, ha⟩
  · obtain ⟨ha, hw⟩ := h.pure_inv
    exact .inl ⟨hready, hw, ha⟩

theorem terminate_inv {graceMs : UInt64} {a : Except Panic Unit} (h : (terminate graceMs).Alone w a w') :
    w' = { w with state := .closed } :=
  (Job.Alone.watch_inv h.op_inv).2

theorem answer_terminate {graceMs : UInt64} {a : Except Panic (Option Message)}
    (h : (v.answer (.terminate graceMs)).Alone w a w') : w' = { w with state := .closed } := by
  rcases h.bind_inv with ⟨_, u, hterminate, hrest⟩ | ⟨p, -, hterminate⟩
  · rw [← terminate_inv hterminate]
    exact hrest.pure_inv.2
  · exact terminate_inv hterminate

/-- What a worker refuses to do in its state it answers with the failure that says so, and leaves the
world as it is. -/
theorem answer_refused {m : Message} {a : Except Panic (Option Message)} (hrefuses : w.state.refuses m = true)
    (h : (v.answer m).Alone w a w') :
    w' = w ∧ ∃ response, v.refusal (unready w.state) m = some response ∧ a = .ok (some response) := by
  have hne (hs : (w.state != .ready) = true) : w.state ≠ .ready := bne_iff_ne.1 hs
  cases m with
  | initRequest r =>
    obtain ⟨b, hinit, rfl⟩ := h.map_inv
    rcases init_inv hinit with ⟨hnot, -⟩ | ⟨-, hw, response, hresponse, rfl⟩
    · rw [hrefuses] at hnot
      cases hnot
    · exact ⟨hw, response, hresponse, rfl⟩
  | metadataRequest d =>
    obtain ⟨b, hmetadata, rfl⟩ := h.map_inv
    rcases ensureReady_inv hmetadata with ⟨hready, -⟩ | ⟨-, hrest⟩
    · exact absurd hready (hne hrefuses)
    · obtain ⟨rfl, hw⟩ := hrest.pure_inv
      exact ⟨hw, _, rfl, rfl⟩
  | loadRequest r =>
    obtain ⟨b, hload, rfl⟩ := h.map_inv
    rcases load_inv hload with ⟨-, hw, rfl⟩ | ⟨hready, -⟩ | ⟨hready, -⟩
    · exact ⟨hw, _, rfl, rfl⟩
    · exact absurd hready (hne hrefuses)
    · exact absurd hready (hne hrefuses)
  | invocationRequest r =>
    obtain ⟨b, hinvoke, rfl⟩ := h.map_inv
    rcases ensureReady_inv hinvoke with ⟨hready, -⟩ | ⟨-, hrest⟩
    · exact absurd hready (hne hrefuses)
    · obtain ⟨rfl, hw⟩ := hrest.pure_inv
      exact ⟨hw, _, rfl, rfl⟩
  | _ => cases hrefuses

/-- An envelope is answered with what the worker answers to its message. -/
theorem process_inv {e : Envelope} {a : Except Panic (Option Envelope)} (h : (v.process e).Alone w a w') :
    ∃ b, (v.answer e.payload).Alone w b w' ∧
      match b with
      | .ok (some m) => ∃ ms, a = .ok (some (.reply (nanoseconds ms) e.header m))
      | .ok none => a = .ok none
      | .error p => a = .error p := by
  rcases h.bind_inv with ⟨b, u, hanswer, hrest⟩ | ⟨p, rfl, hanswer⟩
  · cases b with
    | none =>
      obtain ⟨rfl, rfl⟩ := hrest.pure_inv
      exact ⟨_, hanswer, rfl⟩
    | some m =>
      obtain ⟨ms, hreply⟩ := Job.Alone.now_inv hrest
      obtain ⟨rfl, rfl⟩ := hreply.pure_inv
      exact ⟨_, hanswer, ms, rfl⟩
  · exact ⟨_, hanswer, rfl⟩

end Worker

/-! ## Turns -/

/-- What a worker is asked for: to open the stream, or to process an envelope. -/
inductive Demand where
  | start
  | process (e : Envelope)

def Demand.job (v : Worker) : Demand → Job (Option Envelope)
  | .start => v.start
  | .process e => v.process e

/-- A demand that is met: the worlds before and after it, and the answer that there was, or the panic. -/
structure Turn where
  demand : Demand
  before : World
  answer : Except Panic (Option Envelope)
  after : World

namespace Turn

variable {v : Worker} {t : Turn}

/-- The demand is met, with nothing else going on. -/
def Done (v : Worker) (t : Turn) : Prop := (t.demand.job v).Alone t.before t.answer t.after

/-- The id of the function that a turn loads: a load request is answered with success. -/
def loaded? (t : Turn) : Option String :=
  match t.demand, t.answer with
  | .process ⟨_, .loadRequest r⟩, .ok (some ⟨_, .loadResponse response⟩) =>
    if response.result.isSuccess then some r.functionId else none
  | _, _ => none

/-- All that a turn can do to the state of the worker and to its functions. -/
inductive Moves (t : Turn) : Prop
  | opens (demand : t.demand = .start) (state : t.after.state = t.before.state.opened)
      (functions : t.after.functions = t.before.functions)
  | initialises {e r} (demand : t.demand = .process e) (payload : e.payload = .initRequest r)
      (allowed : t.before.state = .handshaking ∨ t.before.state = .ready) (state : t.after.state = .ready)
      (functions : t.after.functions = t.before.functions)
  | loads {e r d} (demand : t.demand = .process e) (payload : e.payload = .loadRequest r)
      (ready : t.before.state = .ready) (loaded : t.loaded? = some d.id)
      (fresh : t.before.functions.find? d.id = none) (state : t.after.state = t.before.state)
      (functions : t.after.functions = ⟨t.before.functions.definitions ++ [d]⟩)
  | closes {e graceMs} (demand : t.demand = .process e) (payload : e.payload = .terminate graceMs)
      (state : t.after.state = .closed) (functions : t.after.functions = t.before.functions)
  | serves (state : t.after.state = t.before.state) (functions : t.after.functions = t.before.functions)
      (loaded : t.loaded? = none)

theorem loaded?_of_ne {e : Envelope} (hd : t.demand = .process e) (h : ∀ r, e.payload ≠ .loadRequest r) :
    t.loaded? = none := by
  unfold loaded?
  split
  · rename_i header r _ _ hdemand _
    rw [hd] at hdemand
    cases hdemand
    exact absurd rfl (h r)
  · rfl

theorem loaded?_of_load {e : Envelope} {r : LoadRequest} {o : Outcome} {ms : Nat} (hd : t.demand = .process e)
    (he : e.payload = .loadRequest r)
    (ha : t.answer = .ok (some (.reply (nanoseconds ms) e.header (.loadResponse ⟨r.functionId, o⟩)))) :
    t.loaded? = if o.isSuccess then some r.functionId else none := by
  obtain ⟨header, payload⟩ := e
  cases he
  unfold loaded?
  rw [hd, ha]
  rfl

theorem Done.moves (h : t.Done v) : t.Moves := by
  obtain ⟨demand, before, answer, after⟩ := t
  cases demand with
  | start =>
    have hw := Worker.start_inv h
    exact .opens rfl (by rw [hw]) (by rw [hw])
  | process e =>
    obtain ⟨b, hanswer, hb⟩ := Worker.process_inv h
    cases he : e.payload with
    | initRequest r =>
      rw [he] at hanswer
      obtain ⟨m, hinit, rfl⟩ := hanswer.map_inv
      rcases Worker.init_inv hinit with ⟨-, hallowed, hstate, hfunctions⟩ | ⟨-, hw, -⟩
      · exact .initialises rfl he hallowed hstate hfunctions
      · exact .serves (by rw [hw]) (by rw [hw]) (loaded?_of_ne rfl (by rw [he]; exact nofun))
    | loadRequest r =>
      rw [he] at hanswer
      obtain ⟨m, hload, rfl⟩ := hanswer.map_inv
      rcases Worker.load_inv hload with ⟨-, hw, rfl⟩ | ⟨-, hw, failure, rfl⟩ | ⟨hready, rfl, d, hid, hfresh, hw⟩
      all_goals obtain ⟨ms, ha⟩ := hb
      · exact .serves (by rw [hw]) (by rw [hw]) (loaded?_of_load rfl he ha)
      · exact .serves (by rw [hw]) (by rw [hw]) (loaded?_of_load rfl he ha)
      · refine .loads (d := d) rfl he hready ?_ hfresh (by rw [hw]) (by rw [hw])
        rw [hid]
        exact loaded?_of_load rfl he ha
    | terminate graceMs =>
      rw [he] at hanswer
      have hw := Worker.answer_terminate hanswer
      exact .closes rfl he (by rw [hw]) (by rw [hw])
    | _ =>
      obtain ⟨hstate, hfunctions⟩ := hanswer.serves (v.answer_serves (by rw [he]; rfl))
      exact .serves hstate hfunctions (loaded?_of_ne rfl (by rw [he]; exact nofun))

/-- A turn never takes the worker back. -/
theorem Moves.forward (h : t.Moves) : t.before.state.rank ≤ t.after.state.rank := by
  cases h with
  | opens _ state =>
    rw [state]
    cases t.before.state <;> decide
  | initialises _ _ allowed state =>
    rw [state]
    rcases allowed with hs | hs
    · rw [hs]
      decide
    · rw [hs]
  | closes _ _ state =>
    rw [state]
    cases t.before.state <;> decide
  | loads _ _ _ _ _ state | serves state => rw [state]

/-- A worker becomes ready by an init request while it is handshaking, and in no other way. -/
theorem Moves.readied (h : t.Moves) (hbefore : t.before.state ≠ .ready) (hafter : t.after.state = .ready) :
    t.before.state = .handshaking ∧ ∃ e r, t.demand = .process e ∧ e.payload = .initRequest r := by
  cases h with
  | opens _ state =>
    rw [state] at hafter
    cases hs : t.before.state with
    | ready => exact absurd hs hbefore
    | _ =>
      rw [hs] at hafter
      cases hafter
  | initialises demand payload allowed => exact ⟨allowed.resolve_right hbefore, _, _, demand, payload⟩
  | closes _ _ state =>
    rw [state] at hafter
    cases hafter
  | loads _ _ _ _ _ state | serves state => exact absurd (state ▸ hafter) hbefore

/-- What a turn loads is put behind what has been loaded, and nothing else is. -/
inductive Adds (t : Turn) : Option String → Prop
  | same (functions : t.after.functions = t.before.functions) : Adds t none
  | loads (d : Definition) (ready : t.before.state = .ready) (fresh : t.before.functions.find? d.id = none)
      (functions : t.after.functions = ⟨t.before.functions.definitions ++ [d]⟩) : Adds t (some d.id)

theorem Moves.adds (h : t.Moves) : t.Adds t.loaded? := by
  cases h with
  | opens demand _ functions =>
    have hnone : t.loaded? = none := by
      unfold loaded?
      rw [demand]
    exact hnone ▸ .same functions
  | initialises demand payload _ _ functions =>
    rw [loaded?_of_ne demand (by rw [payload]; exact nofun)]
    exact .same functions
  | closes demand payload _ functions =>
    rw [loaded?_of_ne demand (by rw [payload]; exact nofun)]
    exact .same functions
  | serves _ functions loaded => exact loaded ▸ .same functions
  | loads _ _ ready loaded fresh _ functions => exact loaded ▸ .loads _ ready fresh functions

theorem Adds.ids {id : Option String} (h : t.Adds id) : t.after.functions.ids = t.before.functions.ids ++ id.toList := by
  unfold FunctionTable.ids
  cases h with
  | same functions => rw [functions, Option.toList_none, List.append_nil]
  | loads d _ _ functions => rw [functions, List.map_append, List.map_singleton, Option.toList_some]

theorem Adds.grows {id : Option String} (h : t.Adds id) :
    t.before.functions.definitions <+: t.after.functions.definitions := by
  cases h with
  | same functions => rw [functions]
  | loads d _ _ functions =>
    rw [functions]
    exact List.prefix_append _ _

theorem Adds.nodup {id : Option String} (h : t.Adds id) (hbefore : t.before.functions.ids.Nodup) :
    t.after.functions.ids.Nodup := by
  rw [h.ids]
  cases h with
  | same => rwa [Option.toList_none, List.append_nil]
  | loads d _ fresh =>
    rw [Option.toList_some, ← List.concat_eq_append]
    exact hbefore.concat (FunctionTable.find?_eq_none.1 fresh)

/-- What a turn keeps to, in a life that ends in some world. -/
structure Orderly (v : Worker) (w' : World) (t : Turn) : Prop where
  forward : t.before.state.rank ≤ t.after.state.rank ∧ t.after.state.rank ≤ w'.state.rank
  /-- A worker becomes ready only by an init request while it is handshaking. -/
  readied : t.before.state ≠ .ready → t.after.state = .ready →
    t.before.state = .handshaking ∧ ∃ e r, t.demand = .process e ∧ e.payload = .initRequest r
  /-- A load request that is answered with success adds a function, which happens when the worker is ready
  and the id is not taken; nothing else changes the functions. -/
  adds : t.Adds t.loaded?
  /-- What is loaded stays. -/
  stays : ∀ id d, t.after.functions.find? id = some d → w'.functions.find? id = some d
  /-- What the worker refuses in its state is answered with the failure that says so, and changes nothing. -/
  refused : ∀ e, t.demand = .process e → t.before.state.refuses e.payload = true →
    t.after = t.before ∧ ∃ ms response,
      t.answer = .ok (some (.reply (nanoseconds ms) e.header response)) ∧
      v.refusal (Worker.unready t.before.state) e.payload = some response ∧
      response.result = some (.failure
        { typeName := "not_ready"
          message := "worker is not ready (state: " ++ t.before.state.name ++ ")"
          source := workerSource })

theorem Done.refused (h : t.Done v) {e : Envelope} (hd : t.demand = .process e)
    (hrefuses : t.before.state.refuses e.payload = true) :
    t.after = t.before ∧ ∃ ms response,
      t.answer = .ok (some (.reply (nanoseconds ms) e.header response)) ∧
      v.refusal (Worker.unready t.before.state) e.payload = some response := by
  obtain ⟨demand, before, answer, after⟩ := t
  cases hd
  obtain ⟨b, hanswer, hb⟩ := Worker.process_inv h
  obtain ⟨hw, response, hresponse, rfl⟩ := Worker.answer_refused hrefuses hanswer
  obtain ⟨ms, ha⟩ := hb
  exact ⟨hw, ms, response, ha, hresponse⟩

end Turn

theorem Worker.refusal_result {v : Worker} {e : ExceptionRecord} {m response : Message}
    (h : v.refusal e m = some response) : response.result = some (.failure e) := by
  cases m with
  | initRequest r | metadataRequest d | loadRequest r | invocationRequest r =>
    cases h
    rfl
  | _ => cases h

/-! ## A life of turns -/

/-- Turns that follow one another from one world to another. -/
def Turns (v : Worker) : World → List Turn → World → Prop
  | w, [], w' => w = w'
  | w, t :: ts, w' => t.before = w ∧ t.Done v ∧ Turns v t.after ts w'

namespace Turns

variable {v : Worker} {ts : List Turn}

theorem forward (h : Turns v w ts w') : w.state.rank ≤ w'.state.rank := by
  induction ts generalizing w with
  | nil => rw [show w = w' from h]
  | cons t ts ih =>
    obtain ⟨rfl, hdone, hrest⟩ := h
    exact hdone.moves.forward.trans (ih hrest)

theorem grows (h : Turns v w ts w') : w.functions.definitions <+: w'.functions.definitions := by
  induction ts generalizing w with
  | nil => rw [show w = w' from h]
  | cons t ts ih =>
    obtain ⟨rfl, hdone, hrest⟩ := h
    exact hdone.moves.adds.grows.trans (ih hrest)

theorem ids (h : Turns v w ts w') : w'.functions.ids = w.functions.ids ++ ts.filterMap (·.loaded?) := by
  induction ts generalizing w with
  | nil => rw [show w = w' from h, List.filterMap_nil, List.append_nil]
  | cons t ts ih =>
    obtain ⟨rfl, hdone, hrest⟩ := h
    rw [ih hrest, hdone.moves.adds.ids, List.append_assoc]
    cases ht : t.loaded? with
    | none => rw [List.filterMap_cons_none ht, Option.toList_none, List.nil_append]
    | some id => rw [List.filterMap_cons_some ht, Option.toList_some, List.singleton_append]

theorem nodup (h : Turns v w ts w') (hw : w.functions.ids.Nodup) : w'.functions.ids.Nodup := by
  induction ts generalizing w with
  | nil =>
    cases h
    exact hw
  | cons t ts ih =>
    obtain ⟨rfl, hdone, hrest⟩ := h
    exact ih hrest (hdone.moves.adds.nodup hw)

theorem orderly (h : Turns v w ts w') : ∀ t ∈ ts, t.Orderly v w' := by
  induction ts generalizing w with
  | nil => exact fun t ht => absurd ht List.not_mem_nil
  | cons t ts ih =>
    obtain ⟨rfl, hdone, hrest⟩ := h
    intro u hu
    rcases List.mem_cons.1 hu with rfl | hu
    · have hmoves := hdone.moves
      refine ⟨⟨hmoves.forward, hrest.forward⟩, hmoves.readied, hmoves.adds, fun id d hd => ?_,
        fun e hd hrefuses => ?_⟩
      · exact FunctionTable.find?_of_longer hrest.grows hd
      · obtain ⟨hw, ms, response, ha, hresponse⟩ := hdone.refused hd hrefuses
        exact ⟨hw, ms, response, ha, hresponse, Worker.refusal_result hresponse⟩
    · exact ih hrest u hu

end Turns

/-! ## Lives there are -/

/-- The turn of a worker that is alone, on a stream that takes everything. -/
def Demand.turn (v : Worker) (w : World) (d : Demand) : Turn :=
  ⟨d, w, (Routine.run Effect.alone (d.job v) w).1, (Routine.run Effect.alone (d.job v) w).2⟩

def Demand.turns (v : Worker) : World → List Demand → List Turn
  | _, [] => []
  | w, d :: ds => d.turn v w :: turns v (d.turn v w).after ds

/-- The world after the turns of a worker that is alone. -/
def Demand.last (v : Worker) : World → List Demand → World
  | w, [] => w
  | w, d :: ds => last v (d.turn v w).after ds

theorem Demand.turns_demand (v : Worker) (ds : List Demand) (w : World) :
    (Demand.turns v w ds).map (·.demand) = ds := by
  induction ds generalizing w with
  | nil => rfl
  | cons d ds ih => exact congrArg (d :: ·) (ih (d.turn v w).after)

/-- Whatever a worker is asked for, there is a life in which it is. -/
theorem Demand.turns_follow (v : Worker) (ds : List Demand) (w : World) :
    Turns v w (Demand.turns v w ds) (Demand.last v w ds) := by
  induction ds generalizing w with
  | nil => rfl
  | cons d ds ih =>
    obtain ⟨es, hmine, hrun⟩ := Job.run_alone (d.job v) w
    exact ⟨rfl, ⟨es, hmine, hrun⟩, ih (d.turn v w).after⟩

/-- The life of a worker from its building on, whatever it is asked for: every turn keeps to the order of
the states, and the functions that are loaded in the end are those whose load requests were answered
with success, each of them once. Whatever a worker is asked for, there is such a life. -/
theorem Worker.lives_orderly (v : Worker) (services : ServiceRegistrations) (environment : Environment) :
    (∀ (ts : List Turn) (w' : World), Turns v { v.world services with environment } ts w' →
      (∀ t ∈ ts, t.Orderly v w') ∧
      w'.functions.ids = ts.filterMap (·.loaded?) ∧ (ts.filterMap (·.loaded?)).Nodup) ∧
    ∀ demands : List Demand, ∃ ts w', ts.map (·.demand) = demands ∧
      Turns v { v.world services with environment } ts w' := by
  refine ⟨fun ts w' h => ?_, fun demands => ?_⟩
  · have hids : w'.functions.ids = ts.filterMap (·.loaded?) := h.ids
    refine ⟨h.orderly, hids, ?_⟩
    rw [← hids]
    exact h.nodup List.nodup_nil
  · exact ⟨_, _, Demand.turns_demand v demands _, Demand.turns_follow v demands _⟩

/-! ## A short life -/

namespace Novice

/-- A worker with one function in its catalog. -/
def worker : Worker where
  options := { workerId := "w-1" }
  catalog := ⟨[.ofHandler "file" 0]⟩
  invoker := { pipeline := { handlers := fun _ _ => .done (.ok {}) } }

def load (requestId functionId : String) : Demand :=
  .process (.make 0 requestId (.loadRequest ⟨functionId, { name := "file" }⟩))

/-- A function is asked for before the worker is ready, when it is, once more, and when it is closed. -/
def demands : List Demand :=
  [load "a" "f", .start, .process (.make 0 "b" (.initRequest { hostVersion := "4" })),
    load "c" "f", load "d" "f", .process (.make 0 "e" (.terminate 0)), load "g" "g"]

theorem lives_orderly_novice :
    let ts := Demand.turns worker (worker.world {}) demands
    Turns worker (worker.world {}) ts (Demand.last worker (worker.world {}) demands) ∧
    ts.map (·.after.state) = [.unstarted, .handshaking, .ready, .ready, .ready, .closed, .closed] ∧
    ts.map (·.loaded?) = [none, none, none, some "f", none, none, none] ∧
    (Demand.last worker (worker.world {}) demands).functions.ids = ["f"] ∧
    ∀ t ∈ ts, t.Orderly worker (Demand.last worker (worker.world {}) demands) := by
  have hturns := Demand.turns_follow worker demands (worker.world {})
  obtain ⟨horderly, hids, -⟩ := (worker.lives_orderly {} {}).1 _ _ hturns
  have hloaded : (Demand.turns worker (worker.world {}) demands).map (·.loaded?) =
      [none, none, none, some "f", none, none, none] := by decide +kernel
  refine ⟨hturns, by decide +kernel, hloaded, ?_, horderly⟩
  rw [hids]
  decide +kernel

end Novice

end FunctionWorker
