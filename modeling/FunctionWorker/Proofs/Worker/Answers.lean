/-
Which messages a worker answers, and with what. The response of a request is told by the message itself when
it is processed, and by the name of its kind when its processing panicked; both come to a response of the
kind that is paired with the request, under its id and about the same function or invocation.
-/
import FunctionWorker.Proofs.Invocation.Response
import FunctionWorker.Proofs.Worker.Lifecycle

namespace FunctionWorker

/-! ## Requests and their responses -/

namespace Message

/-- The requests whose response carries an outcome. -/
def expectsOutcome : Message → Bool
  | .initRequest _ | .metadataRequest _ | .loadRequest _ | .invocationRequest _ | .reloadRequest _ => true
  | _ => false

/-- The kind of the response that is paired with a request. -/
def responseKind : Message → Option String
  | .initRequest _ => some "worker_init_response"
  | .statusRequest => some "worker_status_response"
  | .metadataRequest _ => some "function_metadata_response"
  | .loadRequest _ => some "function_load_response"
  | .invocationRequest _ => some "invocation_response"
  | .reloadRequest _ => some "function_environment_reload_response"
  | _ => none

/-- The function or invocation that a request or a response is about. -/
def subject : Message → Option String
  | .loadRequest r => some r.functionId
  | .loadResponse r => some r.functionId
  | .invocationRequest r => some r.invocationId
  | .invocationResponse r => some r.invocationId
  | _ => none

/-- A message without outputs, a value that is returned, and functions. -/
def isBare : Message → Bool
  | .invocationResponse r => r.outputs.isEmpty && r.returnValue.isNone
  | .metadataResponse r => r.functions.isEmpty
  | _ => true

/-- A message that is a response to another one. -/
structure RepliesTo (request response : Message) : Prop where
  kind : request.responseKind = some response.kind
  subject : response.subject = request.subject
  outcome : response.result.isSome = request.expectsOutcome

end Message

/-- Whether a worker answers a message in some state. -/
def WorkerState.answers (s : WorkerState) (m : Message) : Bool :=
  m.expectsOutcome || m == .statusRequest && s != .closed

/-- An envelope that answers another one. -/
structure Envelope.Answers (request response : Envelope) : Prop where
  requestId : response.header.requestId = request.header.requestId
  payload : request.payload.RepliesTo response.payload

/-- An answer that tells of a failure and of nothing else. -/
structure Envelope.Fails (request failure : Envelope) : Prop where
  answers : request.Answers failure
  bare : failure.payload.isBare = true
  status : ∃ o, failure.payload.result = some o ∧ o.status = .failure

/-- Two answers to one envelope are of one kind and under one id, and are about the same. -/
theorem Envelope.Answers.agree {request response other : Envelope} (h : request.Answers response)
    (h' : request.Answers other) : response.payload.kind = other.payload.kind ∧
      response.header.requestId = other.header.requestId ∧ response.payload.subject = other.payload.subject := by
  refine ⟨?_, ?_, ?_⟩
  · have hkind := h.payload.kind
    rw [h'.payload.kind] at hkind
    exact (Option.some.inj hkind).symm
  · rw [h.requestId, h'.requestId]
  · rw [h.payload.subject, h'.payload.subject]

/-! ## How runs end -/

variable {α β : Type} {w w' : World} {es : List Event}

/-- Whatever goes on besides, every run of the job comes to a result of some kind. -/
def Job.EndsWith (P : Except Panic α → Prop) (j : Job α) : Prop := ∀ w es r w', Job.Run j w es r w' → P r

namespace Job.EndsWith

variable {P : Except Panic β → Prop} {Q : Except Panic α → Prop} {j : Job α} {f : α → Job β}

theorem pure {b : β} (h : P (.ok b)) : Job.EndsWith P (pure b) := by
  rintro w es r w' ⟨-, -, rfl⟩
  exact h

theorem call {x : Effect Op} {k : x.Reply Op.Reply → Job β} (h : ∀ a, (k a).EndsWith P) :
    Job.EndsWith P (Routine.call x k : Job β) := by
  rintro w es r w' ⟨es₁, es₂, a, v, -, -, hrest⟩
  exact h a _ _ _ _ hrest

theorem op {o : Op} {f : o.Reply → Job β} (h : ∀ a, (f a).EndsWith P) : Job.EndsWith P (Job.op o >>= f) := call h

theorem bind (hj : j.EndsWith Q) (hf : ∀ a, Q (.ok a) → (f a).EndsWith P) (hp : ∀ p, Q (.error p) → P (.error p)) :
    Job.EndsWith P (j >>= f) := by
  intro w es r w' run
  rcases run.bind_inv with ⟨a, es₁, es₂, v, -, hfirst, hrest⟩ | ⟨p, rfl, hfirst⟩
  · exact hf a (hj _ _ _ _ hfirst) _ _ _ _ hrest
  · exact hp p (hj _ _ _ _ hfirst)

/-- A job that panics in no run. -/
abbrev Safe (j : Job α) : Prop := j.EndsWith fun r => ∃ a, r = .ok a

theorem safe_bind (hj : Safe j) (hf : ∀ a, (f a).EndsWith P) : Job.EndsWith P (j >>= f) := by
  refine bind hj (fun a _ => hf a) fun p h => ?_
  obtain ⟨a, ha⟩ := h
  cases ha

end Job.EndsWith

open Job (EndsWith)

namespace Worker

variable {v : Worker}

theorem ensureReady_safe : EndsWith.Safe ensureReady := by
  refine EndsWith.op fun state => ?_
  split
  · exact EndsWith.pure ⟨_, rfl⟩
  · exact EndsWith.pure ⟨_, rfl⟩

theorem directoryFor_safe (requested : String) : EndsWith.Safe (directoryFor requested) := by
  unfold directoryFor
  split
  · exact EndsWith.pure ⟨_, rfl⟩
  · exact EndsWith.op fun _ => EndsWith.pure ⟨_, rfl⟩

/-- Metadata that list the entries of a catalog for a directory, each under some identity. -/
def Lists (directory : String) : List CatalogEntry → List FunctionMetadata → Prop :=
  List.Forall₂ fun e m => ∃ id, m = e.toMetadata id directory

/-- Listing a catalog asks for an identity for each entry, and for nothing else. -/
theorem catalog_bind {P : Except Panic α → Prop} {directory : String} :
    ∀ {entries : List CatalogEntry} {g : List FunctionMetadata → Code α},
      (∀ ms, Lists directory entries ms → EndsWith P (Code.job (g ms))) →
        EndsWith P (Code.job ((Catalog.metadata directory entries).bind g))
  | [], _, h => h [] .nil
  | e :: entries, g, h => by
    refine EndsWith.op fun id => ?_
    show EndsWith P (Code.job (((Catalog.metadata directory entries).bind fun ms =>
      .done (e.toMetadata id directory :: ms)).bind g))
    -- the rest is listed first and the entry put in front of it, so that goes into what comes afterwards
    rw [Routine.bind_bind]
    exact catalog_bind fun ms hms => h (e.toMetadata id directory :: ms) (.cons ⟨id, rfl⟩ hms)

theorem catalog_lists (directory : String) (entries : List CatalogEntry) :
    (Code.job (Catalog.metadata directory entries)).EndsWith fun r =>
      ∃ ms, r = .ok ms ∧ Lists directory entries ms := by
  rw [← Routine.bind_done (Catalog.metadata directory entries)]
  exact catalog_bind fun ms hms => EndsWith.pure ⟨ms, rfl, hms⟩

/-! ## Responses -/

/-- The code of a worker's provider or reloader panics while it works on a message. -/
inductive Breaks (v : Worker) (p : Panic) : Message → Prop
  | provider {requested : String} {provide : MetadataProvider} {directory : String} {w w' : World}
      {es : List Event} (own : v.provider = some provide) (run : Job.Run (Code.job (provide directory)) w es (.error p) w') :
      Breaks v p (.metadataRequest requested)
  | reloader {r : ReloadRequest} {reload : Reloader} {directory : Option String} {w w' : World} {es : List Event}
      (own : v.reloader = some reload) (run : Job.Run (Code.job (reload r.vars directory)) w es (.error p) w') :
      Breaks v p (.reloadRequest r)

/-- The work on a request comes to its response, or code of the worker's user panics. -/
def Responds (v : Worker) (request : Message) : Except Panic Message → Prop
  | .ok response => request.RepliesTo response
  | .error p => v.Breaks p request

theorem init_responds (v : Worker) (r : InitRequest) : (v.init r).EndsWith (v.Responds (.initRequest r)) := by
  refine EndsWith.op fun result => ?_
  have hreplies : ∀ o, Message.RepliesTo (.initRequest r)
      (.initResponse ⟨version, v.capabilities, v.metadata, o⟩) := fun o => ⟨rfl, rfl, rfl⟩
  cases result with
  | error s => exact EndsWith.pure (hreplies _)
  | ok =>
    dsimp only
    split
    · exact EndsWith.op fun _ => EndsWith.pure (hreplies _)
    · exact EndsWith.pure (hreplies _)

/-- How the listing of a directory ends: a panic is one of the provider, and without a provider the entries of
the catalog are listed for the directory. -/
structure Listing (v : Worker) (directory requested : String)
    (r : Except Panic (Except WorkerError (List FunctionMetadata))) : Prop where
  breaks : ∀ p, r = .error p → v.Breaks p (.metadataRequest requested)
  lists : v.provider = none → ∀ ms, r = .ok (.ok ms) → Lists directory v.catalog.entries ms

theorem listFunctions_ends (v : Worker) (directory requested : String) :
    (v.listFunctions directory).EndsWith (v.Listing directory requested) := by
  unfold listFunctions
  extract_lets check
  -- what is listed goes through the same check, whoever listed it
  have hchecks : ∀ listed, (v.provider = none → ∀ ms, listed = .ok ms → Lists directory v.catalog.entries ms) →
      (check listed).EndsWith (v.Listing directory requested) := by
    intro listed hlisted
    cases listed with
    | error e => exact EndsWith.pure ⟨nofun, nofun⟩
    | ok functions =>
      unfold check
      dsimp only
      split
      · exact EndsWith.pure ⟨nofun, nofun⟩
      · refine EndsWith.pure ⟨nofun, fun hnone ms h => hlisted hnone ms ?_⟩
        rw [Except.ok.inj (Except.ok.inj h)]
  cases hown : v.provider with
  | some provide =>
    have hprovides : (Code.job (provide directory)).EndsWith fun r =>
        ∀ p, r = .error p → v.Breaks p (.metadataRequest requested) := by
      rintro w es r w' run p rfl
      exact .provider hown run
    refine EndsWith.bind hprovides (fun listed _ => hchecks listed fun hnone => ?_) fun p h =>
      ⟨fun q hq => ?_, nofun⟩
    · rw [hown] at hnone
      cases hnone
    · exact Except.error.inj hq ▸ h p rfl
  | none =>
    have hlists : (Except.ok <$> Code.job (Catalog.metadata directory v.catalog.entries)).EndsWith
        fun r : Except Panic (Except MetadataError (List FunctionMetadata)) =>
          ∃ ms, r = .ok (.ok ms) ∧ Lists directory v.catalog.entries ms := by
      refine EndsWith.bind (catalog_lists directory v.catalog.entries) (fun ms h => EndsWith.pure ?_) ?_
      · obtain ⟨ms', heq, hms⟩ := h
        cases heq
        exact ⟨ms, rfl, hms⟩
      · rintro p ⟨ms, h, -⟩
        cases h
    refine EndsWith.bind hlists (fun listed h => hchecks listed fun _ ms hms => ?_) fun p h => ?_
    · obtain ⟨ms', heq, hms'⟩ := h
      cases heq
      cases hms
      exact hms'
    · obtain ⟨ms, heq, -⟩ := h
      cases heq

theorem functionMetadata_responds (v : Worker) (requested : String) :
    (v.functionMetadata requested).EndsWith (v.Responds (.metadataRequest requested)) := by
  have hreplies : ∀ fs o, Message.RepliesTo (.metadataRequest requested) (.metadataResponse ⟨fs, false, o⟩) :=
    fun fs o => ⟨rfl, rfl, rfl⟩
  unfold functionMetadata
  extract_lets answer
  have hanswer : ∀ result, (answer result).EndsWith (v.Responds (.metadataRequest requested)) := by
    intro result
    cases result with
    | ok functions => exact EndsWith.pure (hreplies ..)
    | error e => exact EndsWith.pure (hreplies ..)
  refine EndsWith.safe_bind (j := ensureReady) ensureReady_safe fun checked => ?_
  cases checked with
  | error e => exact hanswer (.error e)
  | ok =>
    refine EndsWith.safe_bind (directoryFor_safe requested) fun directory => ?_
    exact EndsWith.bind (v.listFunctions_ends directory requested) (fun result _ => hanswer result) fun p h =>
      h.breaks p rfl

theorem load_responds (v : Worker) (r : LoadRequest) : (v.load r).EndsWith (v.Responds (.loadRequest r)) := by
  have hreplies : ∀ o, Message.RepliesTo (.loadRequest r) (.loadResponse ⟨r.functionId, o⟩) :=
    fun o => ⟨rfl, rfl, rfl⟩
  have hloads : EndsWith.Safe (v.loadDefinition r) := by
    refine EndsWith.safe_bind (j := ensureReady) ensureReady_safe fun checked => ?_
    cases checked with
    | error e => exact EndsWith.pure ⟨_, rfl⟩
    | ok =>
      dsimp only
      split
      · exact EndsWith.pure ⟨_, rfl⟩
      · refine EndsWith.op fun inserted => ?_
        cases inserted <;> exact EndsWith.pure ⟨_, rfl⟩
  exact EndsWith.safe_bind hloads fun result => EndsWith.pure (hreplies _)

theorem invoke_responds (v : Worker) (r : InvocationRequest) :
    (v.invoke r).EndsWith (v.Responds (.invocationRequest r)) := by
  have hreplies : ∀ response : InvocationResponse, response.invocationId = r.invocationId →
      Message.RepliesTo (.invocationRequest r) (.invocationResponse response) :=
    fun response h => ⟨rfl, congrArg some h, rfl⟩
  refine EndsWith.safe_bind (j := ensureReady) ensureReady_safe fun checked => ?_
  cases checked with
  | error e => exact EndsWith.pure (hreplies _ rfl)
  | ok =>
    have hinvokes : (v.invoker.invoke r).EndsWith fun a =>
        ∃ response : InvocationResponse, a = .ok response ∧ response.invocationId = r.invocationId := by
      intro w es a w' run
      obtain ⟨course, -, rfl⟩ := Invoker.invoke_takes run
      exact ⟨_, rfl, (Invoker.answer_answers v.invoker r course).invocationId⟩
    refine EndsWith.bind hinvokes (fun response h => ?_) fun p h => ?_
    · obtain ⟨_, heq, hid⟩ := h
      cases heq
      exact EndsWith.pure (hreplies _ hid)
    · obtain ⟨_, heq, -⟩ := h
      cases heq

theorem replaceVariables_ends (v : Worker) (r : ReloadRequest) (directory : Option String) :
    (v.replaceVariables r.vars directory).EndsWith fun a => ∀ p, a = .error p → v.Breaks p (.reloadRequest r) := by
  unfold replaceVariables
  cases hown : v.reloader with
  | none => exact EndsWith.op fun result => EndsWith.pure nofun
  | some reload =>
    rintro w es a w' run p rfl
    exact .reloader hown run

theorem reload_responds (v : Worker) (r : ReloadRequest) :
    (v.reload r).EndsWith (v.Responds (.reloadRequest r)) := by
  have hreplies : ∀ o, Message.RepliesTo (.reloadRequest r) (.reloadResponse ⟨v.metadata, v.capabilities, o⟩) :=
    fun o => ⟨rfl, rfl, rfl⟩
  refine EndsWith.bind (v.replaceVariables_ends r _) (fun result _ => ?_) fun p h => h p rfl
  dsimp only
  split
  · exact EndsWith.op fun _ => EndsWith.pure (hreplies _)
  · exact EndsWith.pure (hreplies _)

/-- How the work on a message ends, in the state in which the worker is. -/
inductive Ends (v : Worker) (s : WorkerState) (m : Message) : Except Panic (Option Message) → Prop
  | answered {response : Message} (answers : s.answers m = true) (replies : m.RepliesTo response) :
      Ends v s m (.ok (some response))
  | silent (ignores : s.answers m = false) : Ends v s m (.ok none)
  | broken {p : Panic} (breaks : v.Breaks p m) : Ends v s m (.error p)

theorem answers_of_expects {m : Message} (s : WorkerState) (h : m.expectsOutcome = true) : s.answers m = true := by
  unfold WorkerState.answers
  rw [h, Bool.true_or]

/-- The work on a request whose response carries an outcome never comes to nothing. -/
theorem Responds.ends {m : Message} {job : Job Message} (h : job.EndsWith (v.Responds m)) (s : WorkerState)
    (hm : m.expectsOutcome = true) : EndsWith (v.Ends s m) (some <$> job) := by
  refine EndsWith.bind (f := fun response => pure (some response)) h (fun response hreplies => ?_)
    fun p hbreaks => ?_
  · exact EndsWith.pure (.answered (answers_of_expects s hm) hreplies)
  · exact .broken hbreaks

/-- Apart from the status request, it does not matter in which state a message finds the worker. -/
theorem answer_ends (v : Worker) (s : WorkerState) {m : Message} (h : m ≠ .statusRequest) :
    (v.answer m).EndsWith (v.Ends s m) := by
  cases m with
  | initRequest r => exact Responds.ends (v.init_responds r) s rfl
  | metadataRequest d => exact Responds.ends (v.functionMetadata_responds d) s rfl
  | loadRequest r => exact Responds.ends (v.load_responds r) s rfl
  | invocationRequest r => exact Responds.ends (v.invoke_responds r) s rfl
  | reloadRequest r => exact Responds.ends (v.reload_responds r) s rfl
  | statusRequest => exact absurd rfl h
  | invocationCancel r => exact EndsWith.op fun _ => EndsWith.pure (.silent rfl)
  | terminate ms =>
    exact EndsWith.op fun _ => EndsWith.call (x := .watch ms.toNat) fun _ => EndsWith.pure (.silent rfl)
  | _ => exact EndsWith.pure (.silent rfl)

/-- A status request is answered by the state that it finds, which is that of the beginning if nobody else
does anything. -/
theorem status_inv {r : Except Panic (Option Message)} (run : Job.Run (v.answer .statusRequest) w es r w') :
    ∃ x, ⟨true, .state, x⟩ ∈ es ∧ (Mine es → x = w) ∧ v.Ends x.state .statusRequest r := by
  obtain ⟨es₁, es₂, state, x, rfl, ⟨es₀, _, rfl, hothers, hleads, rfl, rfl⟩, hrest⟩ := run.op_inv
  refine ⟨x, by simp, fun hmine => ?_, ?_⟩
  · -- what precedes the look is done by others, of whom there are none
    rw [hmine.left.left.eq_nil hothers] at hleads
    exact hleads.symm
  · obtain ⟨-, -, rfl⟩ := hrest
    change v.Ends x.state .statusRequest (.ok (if x.state = .closed then none else some .statusResponse))
    by_cases hclosed : x.state = .closed
    · rw [if_pos hclosed, hclosed]
      exact .silent rfl
    · rw [if_neg hclosed]
      refine .answered ?_ ⟨rfl, rfl, rfl⟩
      simp [WorkerState.answers, hclosed]

/-- How the processing of an envelope ends, in the state in which the worker is. -/
inductive Processes (v : Worker) (s : WorkerState) (e : Envelope) : Except Panic (Option Envelope) → Prop
  | answered {response : Envelope} (answers : s.answers e.payload = true) (replies : e.Answers response) :
      Processes v s e (.ok (some response))
  | silent (ignores : s.answers e.payload = false) : Processes v s e (.ok none)
  | broken {p : Panic} (breaks : v.Breaks p e.payload) : Processes v s e (.error p)

theorem process_cases {e : Envelope} {r : Except Panic (Option Envelope)} (run : Job.Run (v.process e) w es r w') :
    ∃ b es₁ es₂ u, es = es₁ ++ es₂ ∧ Job.Run (v.answer e.payload) w es₁ b u ∧
      ∀ s, v.Ends s e.payload b → v.Processes s e r := by
  rcases run.bind_inv with ⟨a, es₁, es₂, u, rfl, hanswer, hrest⟩ | ⟨p, rfl, hanswer⟩
  · refine ⟨_, es₁, es₂, u, rfl, hanswer, fun s hends => ?_⟩
    cases hends with
    | answered answers replies =>
      obtain ⟨es₃, es₄, ms, u', -, -, -, -, rfl⟩ := hrest
      exact .answered answers ⟨rfl, replies⟩
    | silent ignores =>
      obtain ⟨-, -, rfl⟩ := hrest
      exact .silent ignores
  · refine ⟨_, es, [], w', (List.append_nil es).symm, hanswer, fun s hends => ?_⟩
    cases hends with
    | broken breaks => exact .broken breaks

/-- The state in which the processing of an envelope finds the worker: for a status request the one in which it
looks, which is that of the beginning if nobody else does anything. -/
theorem process_processes {e : Envelope} {r : Except Panic (Option Envelope)}
    (run : Job.Run (v.process e) w es r w') :
    ∃ s, v.Processes s e r ∧ (Mine es → s = w.state) ∧
      (e.payload = .statusRequest → ∃ x, ⟨true, .state, x⟩ ∈ es ∧ x.state = s) := by
  obtain ⟨b, es₁, es₂, u, rfl, hanswer, hprocesses⟩ := process_cases run
  by_cases hstatus : e.payload = .statusRequest
  · rw [hstatus] at hanswer
    obtain ⟨x, hx, halone, hends⟩ := status_inv hanswer
    refine ⟨x.state, hprocesses _ (hstatus ▸ hends), fun hmine => ?_, fun _ => ⟨x, List.mem_append_left _ hx, rfl⟩⟩
    rw [halone hmine.left]
  · have hends := v.answer_ends w.state hstatus _ _ _ _ hanswer
    exact ⟨w.state, hprocesses _ hends, fun _ => rfl, fun h => absurd h hstatus⟩

/-! ## Panics -/

/-- The answer to a request whose processing panicked is a failure of the response that is paired with it,
and there is one just for the requests whose response carries an outcome. -/
theorem failureAnswer_of (v : Worker) (e : Envelope) (text : String) :
    (v.failureAnswer (.of e) text).isSome = e.payload.expectsOutcome ∧
    ∀ m, v.failureAnswer (.of e) text = some m → e.payload.RepliesTo m ∧ m.isBare = true ∧
      ∃ o, m.result = some o ∧ o.status = .failure := by
  obtain ⟨header, payload⟩ := e
  unfold failureAnswer RequestSummary.of
  cases payload with
  | initRequest r | metadataRequest d | loadRequest r | invocationRequest r | reloadRequest r =>
    simp only [Message.kind]
    refine ⟨rfl, fun m hm => ?_⟩
    cases hm
    exact ⟨⟨rfl, rfl, rfl⟩, rfl, _, rfl, rfl⟩
  | _ => simp [Message.kind, Message.expectsOutcome]

theorem failureResponse_of (v : Worker) (e : Envelope) (ms : Nat) (text : String) :
    (v.failureResponse ms (.of e) text).isSome = e.payload.expectsOutcome ∧
    ∀ failure, v.failureResponse ms (.of e) text = some failure → e.Fails failure := by
  obtain ⟨hsome, hanswers⟩ := v.failureAnswer_of e text
  unfold failureResponse
  rw [Option.isSome_map, hsome]
  refine ⟨rfl, fun failure hfailure => ?_⟩
  obtain ⟨m, hm, rfl⟩ := Option.map_eq_some_iff.1 hfailure
  obtain ⟨hreplies, hbare, hstatus⟩ := hanswers m hm
  exact ⟨⟨rfl, hreplies⟩, hbare, hstatus⟩

/-- Whatever else goes on, the processing of an envelope ends with the answer to it, or with none where the
worker has none to give in its state, or code of a provider or a reloader panics. Where it panics the request
is answered by its summary, which knows the same requests and agrees with every answer there could have
been. -/
theorem process_answers (v : Worker) (e : Envelope) :
    (∀ w, (∃ es r w', Job.Run (v.process e) w es r w') ∧
      ∀ es r w', Job.Run (v.process e) w es r w' →
        ∃ s, v.Processes s e r ∧ (Mine es → s = w.state) ∧
          (e.payload = .statusRequest → ∃ x, ⟨true, .state, x⟩ ∈ es ∧ x.state = s)) ∧
    ∀ ms text,
      ((v.failureResponse ms (.of e) text).isSome = true ↔ e.payload.expectsOutcome = true) ∧
      ∀ failure, v.failureResponse ms (.of e) text = some failure →
        e.Fails failure ∧ ∀ w es response w', Job.Run (v.process e) w es (.ok (some response)) w' →
          failure.payload.kind = response.payload.kind ∧
          failure.header.requestId = response.header.requestId ∧
          failure.payload.subject = response.payload.subject := by
  constructor
  · intro w
    obtain ⟨es, -, run⟩ := Job.run_alone (v.process e) w
    exact ⟨⟨es, _, _, run⟩, fun es r w' run => process_processes run⟩
  · intro ms text
    obtain ⟨hsome, hfails⟩ := v.failureResponse_of e ms text
    refine ⟨by rw [hsome], fun failure hfailure => ⟨hfails failure hfailure, fun w es response w' run => ?_⟩⟩
    obtain ⟨s, hprocesses, -⟩ := process_processes run
    cases hprocesses with
    | answered _ replies => exact (hfails failure hfailure).answers.agree replies

end Worker

/-! A worker without a provider is asked for its functions when it is ready. -/

namespace Novice

def listing : Envelope := .make 0 "l" (.metadataRequest "/srv")

def readyWorld : World := { worker.world {} with state := .ready }

theorem process_answers_listing : ∃ es response w' failure,
    Job.Run (worker.process listing) readyWorld es (.ok (some response)) w' ∧
    WorkerState.ready.answers listing.payload = true ∧ listing.Answers response ∧
    worker.failureResponse 5 (.of listing) "lost" = some failure ∧ listing.Fails failure ∧
    failure.payload.kind = "function_metadata_response" ∧ failure.payload.kind = response.payload.kind := by
  obtain ⟨hprocess, hfailure⟩ := worker.process_answers listing
  obtain ⟨es, hmine, run⟩ := Job.run_alone (worker.process listing) readyWorld
  obtain ⟨s, hprocesses, halone, -⟩ := (hprocess readyWorld).2 _ _ _ run
  have hs : s = .ready := halone hmine
  obtain ⟨hsome, hfails⟩ := hfailure 5 "lost"
  obtain ⟨failure, hf⟩ := Option.isSome_iff_exists.1 (hsome.2 rfl)
  obtain ⟨hfailed, hagree⟩ := hfails failure hf
  obtain ⟨response, hresponse⟩ : ∃ response,
      (Routine.run Effect.alone (worker.process listing) readyWorld).1 = .ok (some response) := ⟨_, rfl⟩
  rw [hresponse] at run hprocesses
  rw [hs] at hprocesses
  cases hprocesses with
  | answered answers replies =>
    have hkind := (hagree _ _ _ _ run).1
    refine ⟨es, response, _, failure, run, answers, replies, hf, hfailed, ?_, hkind⟩
    exact (Option.some.inj hfailed.answers.payload.kind).symm

end Novice

end FunctionWorker
