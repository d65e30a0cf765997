/-
The versions of envelopes. A frame tells a version, which is looked at, and so does the envelope in it, whose
version nobody looks at: whatever versions the envelopes of a host are given, in range or out of it, a stream goes
on in the same way, with the same steps, the same answers and the same state. An envelope of an unknown version
is served like any other.
-/
import FunctionWorker.Proofs.Bridge.Faithful
import FunctionWorker.Proofs.Worker.Answers
import FunctionWorker.Worker.Serve

namespace FunctionWorker

/-! ## Other versions -/

/-- An envelope under another version. -/
def Envelope.stamped (version : Envelope → UInt16) (e : Envelope) : Envelope :=
  { e with header := { e.header with version := version e } }

section

variable {Op : Type} {R : Op → Type} {σ : Type} {version : Envelope → UInt16} {s : Stream R σ} {p : Processor R σ}
  {b : Bridge R σ} {t : Nat}

/-- What is seen of envelopes of the host. -/
def Occurrence.stamped (version : Envelope → UInt16) : Occurrence → Occurrence
  | .received e => .received (e.stamped version)
  | .dispatched e => .dispatched (e.stamped version)
  | x => x

/-- A processor that does the same about an envelope whatever its version is. -/
def Processor.Ignores (p : Processor R σ) (version : Envelope → UInt16) : Prop :=
  ∀ e, Bridge.dispatch p (e.stamped version) = Bridge.dispatch p e

namespace Bridge

/-- A bridge whose host has sent envelopes of other versions. -/
def stamped (version : Envelope → UInt16) (b : Bridge R σ) : Bridge R σ :=
  { b with
    inbox := b.inbox.map (·.map (Envelope.stamped version))
    inbound := b.inbound.map (Envelope.stamped version) }

/-- What a step comes to when the envelopes have other versions. -/
def restamp (version : Envelope → UInt16) (y : List Occurrence × Bridge R σ) : List Occurrence × Bridge R σ :=
  (y.1.map (Occurrence.stamped version), y.2.stamped version)

/-! ## Steps -/

theorem stepReader_stamped (b : Bridge R σ) (t : Nat) :
    (b.stamped version).stepReader t = (b.stepReader t).map (restamp version) := by
  cases hinbox : b.inbox with
  | nil =>
    have hstamped : (b.stamped version).inbox = [] := by simp only [stamped, hinbox, List.map_nil]
    unfold stepReader
    rw [hinbox, hstamped, show (b.stamped version).shutdown = b.shutdown from rfl,
      show (b.stamped version).ended = b.ended from rfl]
    split
    · rfl
    · dsimp only
      split <;> rfl
  | cons item rest =>
    have hstamped : (b.stamped version).inbox =
        item.map (Envelope.stamped version) :: rest.map (·.map (Envelope.stamped version)) := by
      simp only [stamped, hinbox, List.map_cons]
    unfold stepReader
    rw [hinbox, hstamped, show (b.stamped version).shutdown = b.shutdown from rfl]
    split
    · rfl
    · cases item with
      | error reason => rfl
      | ok e =>
        -- the envelope goes from one list to the other as it is
        simp only [Except.map, Option.map_some, restamp, stamped, List.map_append]
        rfl

theorem stepDispatcher_stamped (h : p.Ignores version) (b : Bridge R σ) (t : Nat) :
    (b.stamped version).stepDispatcher p t = (b.stepDispatcher p t).map (restamp version) := by
  cases hinbound : b.inbound with
  | nil =>
    have hstamped : (b.stamped version).inbound = [] := by simp only [stamped, hinbound, List.map_nil]
    unfold stepDispatcher
    rw [hinbound, hstamped, show (b.stamped version).inboundClosed = b.inboundClosed from rfl]
    dsimp only
    split <;> rfl
  | cons e rest =>
    have hstamped : (b.stamped version).inbound =
        e.stamped version :: rest.map (Envelope.stamped version) := by simp only [stamped, hinbound, List.map_cons]
    unfold stepDispatcher
    rw [hinbound, hstamped]
    dsimp only
    rw [h e]
    rfl

theorem writeFirst_stamped (s : Stream R σ) (b : Bridge R σ) (t : Nat) (e : Envelope) (rest : List Envelope) :
    writeFirst s (b.stamped version) t e rest = restamp version (writeFirst s b t e rest) := by
  unfold writeFirst
  rw [show (b.stamped version).written = b.written from rfl]
  split <;> rfl

theorem stepWriter_stamped (s : Stream R σ) (b : Bridge R σ) (t : Nat) (phase : WriterPhase) :
    (b.stamped version).stepWriter s t phase = (b.stepWriter s t phase).map (restamp version) := by
  unfold stepWriter
  rw [show (b.stamped version).queue = b.queue from rfl, show (b.stamped version).shutdown = b.shutdown from rfl,
    show (b.stamped version).readResult = b.readResult from rfl,
    show (b.stamped version).dispatcherDone = b.dispatcherDone from rfl]
  split
  · split
    · exact congrArg some (writeFirst_stamped ..)
    · split <;> rfl
  · split
    · exact congrArg some (writeFirst_stamped ..)
    · rfl
  · rfl
  · rfl
  · split
    · split <;> rfl
    · rfl

/-- Effects have nothing to do with envelopes of the host. -/
theorem perform_stamped (p : Processor R σ) (x : Effect Op) (b : Bridge R σ) :
    perform p x (b.stamped version) =
      ((perform p x b).1, (perform p x b).2.1, (perform p x b).2.2.stamped version) := by
  cases x with
  | push e =>
    show (b.stamped version).push e = ((b.push e).1, (b.push e).2.1, (b.push e).2.2.stamped version)
    unfold push
    rw [show (b.stamped version).receiver = b.receiver from rfl]
    split <;> rfl
  | _ => rfl

theorem perform_seen (p : Processor R σ) (x : Effect Op) (b : Bridge R σ) :
    (perform p x b).1.map (Occurrence.stamped version) = (perform p x b).1 := by
  cases x with
  | push e =>
    show (b.push e).1.map (Occurrence.stamped version) = (b.push e).1
    unfold push
    split <;> rfl
  | _ => rfl

theorem stepRoutine_stamped (b : Bridge R σ) (t : Nat) (r : Work R Unit) :
    (b.stamped version).stepRoutine p t r = restamp version (b.stepRoutine p t r) := by
  cases r with
  | call x k =>
    simp only [stepRoutine, perform_stamped]
    unfold restamp
    rw [perform_seen]
    rfl
  | wait w rest => cases w <;> rfl
  | _ => rfl

theorem stepWatch_stamped (p : Processor R σ) (b : Bridge R σ) (t deadline nextPoll : Nat) :
    (b.stamped version).stepWatch p t deadline nextPoll =
      (b.stepWatch p t deadline nextPoll).map (restamp version) := by
  unfold stepWatch
  rw [show (b.stamped version).clock = b.clock from rfl, show (b.stamped version).state = b.state from rfl]
  split
  · rfl
  · split
    · rfl
    · split <;> rfl

/-- A step comes to the same whatever versions the envelopes have. -/
theorem step_stamped (h : s.processor.Ignores version) (b : Bridge R σ) (t : Nat) :
    (b.stamped version).step s t = (b.step s t).map (restamp version) := by
  unfold step
  rw [show (b.stamped version).activity? t = b.activity? t from rfl,
    show (b.stamped version).clock = b.clock from rfl, show (b.stamped version).state = b.state from rfl]
  split
  · rfl
  · exact stepReader_stamped b t
  · exact stepDispatcher_stamped h b t
  · exact stepWriter_stamped s b t _
  · exact congrArg some (stepRoutine_stamped b t _)
  · split <;> rfl
  · split <;> rfl
  · exact stepWatch_stamped s.processor b t _ _

theorem exchange?_stamped (p : Processor R σ) (b : Bridge R σ) (t : Nat) :
    (b.stamped version).exchange? p t = b.exchange? p t := by
  unfold exchange?
  rw [show (b.stamped version).activity? t = b.activity? t from rfl]
  split
  · rw [perform_stamped]
  · rfl

theorem job?_stamped (b : Bridge R σ) (t : Nat) :
    (b.stamped version).job? t = (b.job? t).map (Envelope.stamped version) := by
  unfold job?
  rw [show (b.stamped version).activity? t = b.activity? t from rfl]
  split
  · exact List.head?_map
  · rfl

end Bridge

/-! ## Runs -/

/-- A move of a host whose envelopes have other versions. -/
def Move.stamped (version : Envelope → UInt16) : Move R → Move R
  | .deliver items => .deliver (items.map (·.map (Envelope.stamped version)))
  | m => m

namespace Chronicle

variable {x : Chronicle R σ}

/-- A chronicle that is the same up to the versions of what the host has sent. -/
def stamped (version : Envelope → UInt16) (x : Chronicle R σ) : Chronicle R σ where
  bridge := x.bridge.stamped version
  seen := x.seen.map (Occurrence.stamped version)
  asked := x.asked
  jobs := x.jobs.map fun j => (j.1, j.2.stamped version)
  sent := x.sent.map (·.map (Envelope.stamped version))

theorem act_stamped (h : s.processor.Ignores version) (x : Chronicle R σ) (m : Move R) :
    (x.stamped version).act s (m.stamped version) = (x.act s m).stamped version := by
  cases m with
  | step t =>
    unfold Move.stamped act
    dsimp only
    rw [show (x.stamped version).bridge = x.bridge.stamped version from rfl, Bridge.step_stamped h]
    cases x.bridge.step s t with
    | none => rfl
    | some y =>
      show (x.stamped version).advance s t (Bridge.restamp version y).1 (Bridge.restamp version y).2 =
        (x.advance s t y.1 y.2).stamped version
      unfold advance stamped
      dsimp only
      rw [Bridge.exchange?_stamped, Bridge.job?_stamped, List.map_append, List.map_append]
      congr 2
      cases x.bridge.job? t <;> rfl
  | deliver items =>
    show (x.stamped version).act s (.deliver (items.map (·.map (Envelope.stamped version)))) = _
    unfold act stamped Bridge.deliver
    dsimp only
    rw [show (x.bridge.stamped version).ended = x.bridge.ended from rfl]
    cases x.bridge.ended with
    | true => simp
    | false => simp [Bridge.stamped]
  | _ => rfl

/-- A run comes to the same whatever versions the host gives its envelopes. -/
theorem run_stamped (h : s.processor.Ignores version) (x : Chronicle R σ) (moves : List (Move R)) :
    (x.stamped version).run s (moves.map (Move.stamped version)) = (x.run s moves).stamped version := by
  induction moves generalizing x with
  | nil => rfl
  | cons m moves ih =>
    show ((x.stamped version).act s (m.stamped version)).run s (moves.map (Move.stamped version)) =
      ((x.act s m).run s moves).stamped version
    rw [act_stamped h, ih]

/-- At first the host has not sent anything. -/
theorem opening_stamped (quiet : Work.Quiet s.processor.start) (state : σ) (shutdown : Bool) :
    (opening s state shutdown).stamped version = opening s state shutdown := by
  refine opening_of_opens (P := fun y => y.stamped version = y) quiet fun seen b hopens => ?_
  cases hopens <;> rfl

/-- What goes to the host is not touched. -/
theorem pushed_stamped (x : Chronicle R σ) : pushed (x.stamped version).seen = pushed x.seen := by
  unfold pushed stamped
  rw [List.filterMap_map]
  exact List.filterMap_congr fun o _ => by cases o <;> rfl

theorem handed_stamped (x : Chronicle R σ) : handed (x.stamped version).seen = handed x.seen := by
  unfold handed stamped
  rw [List.filterMap_map]
  exact List.filterMap_congr fun o _ => by cases o <;> rfl

end Chronicle

end

/-! ## Workers -/

namespace Worker

/-- A worker does not look at the version of an envelope. -/
theorem ignores (v : Worker) (version : Envelope → UInt16) : v.stream.processor.Ignores version := by
  rintro ⟨header, payload⟩
  cases payload <;> rfl

/-- Whatever versions the envelopes of a host are given, and whatever else happens on the stream, the worker is in
the same world after it and has sent and written the same envelopes; all that differs are the envelopes that are
told of the host. -/
theorem run_versions (v : Worker) (world : World) (shutdown : Bool) (version : Envelope → UInt16)
    (moves : List (Move Op.Reply)) :
    let plain := (Chronicle.opening v.stream world shutdown).run v.stream moves
    let stamped := (Chronicle.opening v.stream world shutdown).run v.stream (moves.map (Move.stamped version))
    stamped = plain.stamped version ∧ stamped.bridge.state = plain.bridge.state ∧
      stamped.bridge.tasks = plain.bridge.tasks ∧ stamped.asked = plain.asked ∧
      pushed stamped.seen = pushed plain.seen ∧ handed stamped.seen = handed plain.seen := by
  intro plain stamped
  have hstamped : stamped = plain.stamped version := by
    have hrun := Chronicle.run_stamped (v.ignores version) (Chronicle.opening v.stream world shutdown) moves
    rwa [Chronicle.opening_stamped v.start_quiet] at hrun
  rw [hstamped]
  exact ⟨rfl, rfl, rfl, rfl, plain.pushed_stamped, plain.handed_stamped⟩

end Worker

/-! ## An unknown version -/

namespace Novice

/-- A request to initialise the worker under a version that there is not. -/
def stranger : Envelope := ⟨⟨2, "a", 0⟩, .initRequest { hostVersion := "4" }⟩

/-- All that the host sends is the request; it has been passed on to a task. -/
def passed : Chronicle Op.Reply World :=
  (Chronicle.opening worker.stream (worker.world {}) false).run worker.stream
    [.deliver [.ok stranger], .step 1, .step 2]

/-- The worker is ready because of the request, and tells of a success. -/
theorem stranger_initialises : stranger.header.isCompatible = false ∧
    passed.bridge.state.state = .handshaking ∧
    (passed.run worker.stream (List.replicate 10 (.step 3))).bridge.state.state = .ready ∧
    ∃ response ∈ pushed (passed.run worker.stream (List.replicate 10 (.step 3))).seen,
      stranger.Answers response ∧ ∃ o, response.payload.result = some o ∧ o.status = .success := by
  refine ⟨by decide, by decide +kernel, by decide +kernel, ?_⟩
  have hpushed : pushed (passed.run worker.stream (List.replicate 10 (.step 3))).seen =
      [.make 0 "" (.startStream "w-1"),
        .make 0 "a" (.initResponse ⟨Worker.version, worker.capabilities, worker.metadata, .success⟩)] := by
    decide +kernel
  rw [hpushed]
  exact ⟨_, List.mem_cons_of_mem _ List.mem_cons_self, ⟨rfl, rfl, rfl, rfl⟩, .success, rfl, rfl⟩

end Novice

end FunctionWorker
