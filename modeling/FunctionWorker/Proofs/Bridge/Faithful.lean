/-
What a stream keeps to, however its tasks take turns, whatever its processor makes of an envelope, and
whenever it is shut down: nothing that was pushed is handed on out of turn, every envelope is processed by
one task and answered at most once, panics stay where they are, and what is sent late is refused.
-/
import FunctionWorker.Proofs.Bridge.Panics
import FunctionWorker.Worker.Process

namespace FunctionWorker

variable {Op : Type} {R : Op → Type} {σ : Type} {s : Stream R σ} {x : Chronicle R σ} {t : Nat} {e : Envelope}

/-- How a stream stands that was opened with a state, or was shut down before, after any number of
moves. -/
structure Faithful (s : Stream R σ) (state : σ) (shutdown : Bool) (x : Chronicle R σ) : Prop where
  /-- The sink is handed what was pushed, in order. -/
  inOrder : handed x.seen <+: pushed x.seen
  /-- The greeting is pushed first, and then what the queue took from tasks. -/
  greeted : ∀ e, s.greeting state shutdown = some e → pushed x.seen = if shutdown then [] else e :: taken x.asked
  ungreeted : s.greeting state shutdown = none → pushed x.seen = taken x.asked
  received : (received x.seen).map .ok <+: x.sent
  /-- Every envelope is passed on at most once, to a task of its own. -/
  once : x.jobs.map (·.2) <+: FunctionWorker.received x.seen
  apart : (x.jobs.map (·.1)).Nodup
  handled : ∀ job ∈ x.jobs, Handles s.processor job.2 (askedBy job.1 x.asked)
  /-- A panic in processing does not end the task. -/
  calm : ∀ job ∈ x.jobs, ∀ p, x.bridge.activity? job.1 ≠ some (.routine (.panic p))
  /-- All others go on as if a task that has panicked were over. -/
  panicked : ∀ t p, x.bridge.activity? t = some (.routine (.panic p)) → ∀ moves, .step t ∉ moves →
    (x.act s (.step t)).run s moves = (x.run s moves).without t
  /-- From the shutdown on, whoever is about to send is refused. -/
  closed : x.bridge.shutdown = true → ∀ moves t e k,
    (x.run s moves).bridge.activity? t = some (.routine ((Work.send e).bind k)) →
    (x.run s moves).act s (.step t) =
      { x.run s moves with
        bridge := (x.run s moves).bridge.become t (.routine (k false))
        asked := (x.run s moves).asked ++ [(t, .looked true)] }

namespace Chronicle

theorem opening_employed (quiet : Work.Quiet s.processor.start) (state : σ) (shutdown : Bool) :
    Employed s (opening s state shutdown) := by
  refine opening_of_opens (P := Employed s) quiet fun seen b hopens => ?_
  have hnone {b : Bridge R σ} {seen : List Occurrence} (hn : b.Numbered) (hi : b.inbound = [])
      (hr : FunctionWorker.received seen = []) : Employed s ⟨b, seen, [], [], []⟩ :=
    ⟨hn, fun _ h => absurd h List.not_mem_nil, fun _ h => absurd h List.not_mem_nil, List.nodup_nil,
      hi.trans hr.symm, fun _ h => absurd h List.not_mem_nil⟩
  cases hopens with
  | greets | starts => exact hnone (Bridge.numbered_of_tasks rfl).startLoops rfl rfl
  | refuses => exact hnone (Bridge.numbered_of_tasks rfl) rfl rfl

theorem opening_heard (quiet : Work.Quiet s.processor.start) (state : σ) (shutdown : Bool) :
    Heard (opening s state shutdown) := by
  refine opening_of_opens (P := Heard) quiet fun seen b hopens => ?_
  cases hopens with
  | greets | starts | refuses => exact ⟨fun _ => rfl, List.prefix_rfl⟩

/-- A task that looks at the flag after the shutdown is told so, and does not push. -/
theorem act_send {k : Bool → Work R Unit} (hs : x.bridge.shutdown = true)
    (ha : x.bridge.activity? t = some (.routine ((Work.send e).bind k))) :
    x.act s (.step t) =
      { x with
        bridge := x.bridge.become t (.routine (k false))
        asked := x.asked ++ [(t, .looked true)] } := by
  have hstep : x.bridge.step s t = some ([], x.bridge.become t (.routine (k false))) := by
    unfold Bridge.step
    rw [ha]
    show some (([] : List Occurrence),
      x.bridge.become t (.routine (Routine.bind (if x.bridge.shutdown then _ else _) k))) = _
    rw [hs]
    rfl
  have hasked : x.bridge.exchange? s.processor t = some (.looked true) := by
    rw [Bridge.exchange?_call ha]
    exact congrArg (fun closed => some (Exchange.looked closed)) hs
  have hjob : x.bridge.job? t = none := Bridge.job?_other (by rw [ha]; exact nofun)
  unfold act
  dsimp only
  rw [hstep]
  show x.advance s t [] _ = _
  unfold advance
  rw [hasked, hjob]
  simp

/-- Every stream keeps to all this, if its processor opens it without using it. -/
theorem run_faithful (quiet : Work.Quiet s.processor.start) (state : σ) (shutdown : Bool)
    (moves : List (Move R)) : Faithful s state shutdown ((opening s state shutdown).run s moves) := by
  have flow := run_flow quiet state shutdown moves
  have pushes := run_pushed quiet state shutdown moves
  have employed : Employed s ((opening s state shutdown).run s moves) :=
    run_keeps (fun _ m h => h.act m) (opening_employed quiet state shutdown) moves
  have heard : Heard ((opening s state shutdown).run s moves) :=
    run_keeps (fun _ m h => h.act m) (opening_heard quiet state shutdown) moves
  generalize (opening s state shutdown).run s moves = x at flow pushes employed heard ⊢
  refine ⟨flow.inOrder, fun e he => ?_, fun hnone => ?_, heard.inOrder, ⟨_, employed.passed⟩, employed.apart,
    fun job hjob => ?_, fun job hjob p hp => ?_, fun t p hp later hlater => ?_, fun hs later t e k ha => ?_⟩
  · rw [pushes, he]
  · rw [pushes, hnone]
  · obtain ⟨r, hr, -⟩ := employed.works job hjob
    exact hr.handles
  · obtain ⟨r, hr, hwork⟩ := employed.works job hjob
    cases hwork _ hp
    exact hr.calm (calm_dispatch s.processor job.2)
  · rw [act_panic hp]
    exact run_without (employed.numbered.lt hp) later hlater
  · exact act_send (run_shutdown later hs) ha

end Chronicle

/-- A worker opens its stream without using it. -/
theorem Worker.start_quiet (w : Worker) : Work.Quiet w.start := ⟨trivial, fun _ => ⟨trivial, fun _ => trivial⟩⟩

/-! ## A stream of two requests -/

namespace Porter

abbrev NoOp : Empty → Type := fun op => nomatch op

def envelope (id : String) (m : Message) : Envelope := .make 0 id m

/-- Answers requests for its status and panics at all others. -/
def stream : Stream NoOp Unit where
  processor :=
    { perform := nofun
      start := .done (some (envelope "" (.startStream "w-1")))
      process := fun e =>
        match e.payload with
        | .statusRequest => .done (some (envelope e.header.requestId .statusResponse))
        | _ => .panic (.text "kaboom")
      failureResponse := fun _ r text =>
        some (envelope r.header.requestId (.loadResponse ⟨"", .failure { message := text }⟩))
      isSignalled := fun _ _ => false
      isIdle := fun _ => true }
  writeError := fun _ _ => none

def requests : List (Except String Envelope) :=
  [.ok (envelope "a" .statusRequest), .ok (envelope "b" (.metadataRequest ""))]

/-- The stream is shut down when the first response is about to be pushed and the second one is on the
queue. Another task panics. -/
def moves : List (Move NoOp) :=
  [.deliver requests, .step 1, .step 1, .step 2, .step 2, .step 4, .step 4, .step 4, .step 3, .shutDown,
    .step 3, .start (.panic .other), .step 5, .step 0, .step 0, .step 0]

theorem run_faithful_porter :
    Work.Quiet stream.processor.start ∧
      Faithful stream () false ((Chronicle.opening stream () false).run stream moves) ∧
      handed ((Chronicle.opening stream () false).run stream moves).seen =
        [envelope "" (.startStream "w-1"),
          envelope "b" (.loadResponse ⟨"", .failure { message := "kaboom" }⟩),
          envelope "a" .statusResponse] :=
  ⟨trivial, Chronicle.run_faithful (s := stream) trivial () false moves, by decide +kernel⟩

end Porter

end FunctionWorker
