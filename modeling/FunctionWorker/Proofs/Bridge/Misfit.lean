/-
A stream on which nothing goes wrong but the size of an envelope. As long as all that is pushed fits, the
loops go on and everything is written. The first envelope that does not fit ends the writing, and with
it the stream: what was pushed before it is written, and nothing that was pushed after it, whoever sent
it.
-/
import FunctionWorker.Proofs.Bridge.Loops
import FunctionWorker.Worker.Serve

namespace FunctionWorker

section

variable {Op : Type} {R : Op → Type} {σ : Type} {s : Stream R σ} {x : Chronicle R σ} {more : List Occurrence}
  {m : Move R} {moves : List (Move R)}

/-! ## What is written -/

def Occurrence.written? : Occurrence → Option Envelope
  | .written e => some e
  | _ => none

/-- The envelopes that the sink has taken, in order. -/
def written (seen : List Occurrence) : List Envelope := seen.filterMap (·.written?)

@[simp] theorem written_append (l₁ l₂ : List Occurrence) : written (l₁ ++ l₂) = written l₁ ++ written l₂ :=
  List.filterMap_append

/-- Where the sink is handed nothing, it takes nothing. -/
theorem written_of_handed {seen : List Occurrence} (h : handed seen = []) : written seen = [] := by
  unfold handed at h
  unfold written
  rw [List.filterMap_eq_nil_iff] at h ⊢
  intro o ho
  have hnone := h o ho
  cases o with
  | written e => cases hnone
  | _ => rfl

namespace Chronicle

/-- Nothing that was seen is taken back. -/
theorem run_seen (s : Stream R σ) (x : Chronicle R σ) (moves : List (Move R)) :
    ∃ more, (x.run s moves).seen = x.seen ++ more := by
  refine run_keeps (P := fun y => ∃ more, y.seen = x.seen ++ more) (fun y m h => ?_) ⟨[], (List.append_nil _).symm⟩
    moves
  obtain ⟨more, hmore⟩ := h
  cases m with
  | step t =>
    refine act_step (P := fun y => ∃ more, y.seen = x.seen ++ more) ⟨more, hmore⟩ fun seen b _ => ?_
    refine ⟨more ++ seen, ?_⟩
    show y.seen ++ seen = _
    rw [hmore, List.append_assoc]
  | _ => exact ⟨more, hmore⟩

/-- Once the writer has stopped, nothing more is written. -/
theorem run_unwritten (hm : Manned x.bridge) (hx : x.bridge.takes = false) (moves : List (Move R)) :
    written (x.run s moves).seen = written x.seen := by
  obtain ⟨more, hmore⟩ := run_seen s x moves
  have hhanded := run_spent (s := s) hm hx moves
  rw [hmore, handed_append] at hhanded
  rw [hmore, written_append, written_of_handed (List.append_right_eq_self.1 hhanded), List.append_nil]

end Chronicle

/-! ## Runs -/

/-- What happens on a stream on which nothing goes wrong: the host sends what is harmless and does not
hang up, and the tasks that are started do not have the stream shut down. -/
def Move.Considerate (harmless : Envelope → Prop) : Move R → Prop
  | .step _ | .tick => True
  | .deliver items => ∀ item ∈ items, ∃ e, item = .ok e ∧ harmless e
  | .start r => Work.Asks Effect.Steady r
  | .hangUp | .shutDown => False

/-- How such a stream fares: it goes on and has written what the sink was handed, all of which fits; or it
is shut down since it was handed an envelope that does not fit, behind what it has written. -/
inductive Fares (harmless : Envelope → Prop) (fits : Envelope → Bool) (x : Chronicle R σ) : Prop
  | goes (going : Going harmless x.bridge) (handed : handed x.seen = written x.seen)
      (fitting : ∀ e ∈ written x.seen, fits e = true)
  | stops (e : Envelope) (handed : handed x.seen = written x.seen ++ [e])
      (fitting : ∀ e ∈ written x.seen, fits e = true) (misfit : fits e = false)
      (spent : x.bridge.takes = false) (shutdown : x.bridge.shutdown = true)

namespace Fares

variable {harmless : Envelope → Prop} {fits : Envelope → Bool}

/-- While the stream goes on, a step that hands nothing over leaves the account as it is. -/
theorem goes_on {y : Chronicle R σ} (hseen : y.seen = x.seen ++ more) (hmore : handed more = [])
    (hh : FunctionWorker.handed x.seen = written x.seen) (hf : ∀ e ∈ written x.seen, fits e = true)
    (hy : Going harmless y.bridge) : Fares harmless fits y := by
  have hwritten : written y.seen = written x.seen := by
    rw [hseen, written_append, written_of_handed hmore, List.append_nil]
  refine .goes hy ?_ (by rwa [hwritten])
  rw [hwritten, hseen, handed_append, hmore, List.append_nil, hh]

theorem act (h : Fares harmless fits x) (hm : Manned x.bridge)
    (judges : ∀ n e, s.writeError n e = none ↔ fits e = true)
    (processing : ∀ e, harmless e → Work.Asks Effect.Steady (s.processor.process e))
    (considerate : m.Considerate harmless) : Fares harmless fits (x.act s m) := by
  cases h with
  | stops e hh hf misfit spent shutdown =>
    have hwritten : written (x.act s m).seen = written x.seen := Chronicle.run_unwritten hm spent [m]
    have hhanded : handed (x.act s m).seen = handed x.seen := Chronicle.run_spent hm spent [m]
    refine .stops e (by rw [hwritten, hhanded, hh]) (by rwa [hwritten]) misfit ?_ (Chronicle.act_shutdown m shutdown)
    obtain ⟨more, -, hw, -⟩ := Chronicle.act_writing (s := s) hm m
    cases hw with
    | goesOn taking => exact taking.trans spent
    | fails _ _ after | empties _ _ _ after | leaves _ _ after => exact after
  | goes going hh hf =>
    cases m with
    | tick => exact goes_on (List.append_nil _).symm rfl hh hf { going with }
    | start r => exact goes_on (List.append_nil _).symm rfl hh hf (going.spawn considerate)
    | hangUp | shutDown => exact considerate.elim
    | deliver items =>
      refine goes_on (List.append_nil _).symm rfl hh hf ?_
      show Going harmless (x.bridge.deliver items)
      unfold Bridge.deliver
      rw [if_neg (by rw [going.ended]; exact Bool.false_ne_true)]
      refine { going with inbox := fun item hitem => ?_ }
      exact (List.mem_append.1 hitem).elim (going.inbox item) (considerate item)
    | step t =>
      unfold Chronicle.act
      dsimp only
      cases hs : x.bridge.step s t with
      | none => exact .goes going hh hf
      | some result =>
        obtain ⟨more, b'⟩ := result
        -- the writer, the reader, the dispatcher, and all other tasks
        rcases t with - | - | - | t
        · obtain ⟨e, rest, -, ⟨hnone, rfl, rfl⟩ | ⟨hsome, rfl, spent, shutdown⟩⟩ := going.write hs
          · have hwritten : written (x.seen ++ [.written e]) = written x.seen ++ [e] := written_append ..
            refine .goes { going with } ?_ fun e' he' => ?_
            · show handed (x.seen ++ [.written e]) = written (x.seen ++ [.written e])
              rw [hwritten, handed_append, hh]
              rfl
            · rw [show (x.advance s 0 _ _).seen = x.seen ++ [.written e] from rfl, hwritten] at he'
              rcases List.mem_append.1 he' with he' | he'
              · exact hf e' he'
              · rw [List.mem_singleton.1 he']
                exact (judges _ e).1 hnone
          · have hwritten : written (x.seen ++ [.failed e]) = written x.seen := by
              rw [written_append]
              exact List.append_nil _
            have hmisfit : fits e = false := Bool.eq_false_of_not_eq_true fun hfit => hsome ((judges _ e).2 hfit)
            refine .stops e ?_ ?_ hmisfit spent shutdown
            · show handed (x.seen ++ [.failed e]) = written (x.seen ++ [.failed e]) ++ [e]
              rw [hwritten, handed_append, hh]
              rfl
            · show ∀ e' ∈ written (x.seen ++ [.failed e]), fits e' = true
              rwa [hwritten]
        · obtain ⟨hmore, hgoing⟩ := going.read hs
          exact goes_on rfl hmore hh hf hgoing
        · obtain ⟨hmore, hgoing⟩ := going.dispatch processing hs
          exact goes_on rfl hmore hh hf hgoing
        · obtain ⟨hmore, hgoing⟩ := going.work (by omega) (Bridge.step_inv hs)
          exact goes_on rfl hmore hh hf hgoing

theorem run (h : Fares harmless fits x) (hm : Manned x.bridge)
    (judges : ∀ n e, s.writeError n e = none ↔ fits e = true)
    (processing : ∀ e, harmless e → Work.Asks Effect.Steady (s.processor.process e))
    (considerate : ∀ m ∈ moves, m.Considerate harmless) : Fares harmless fits (x.run s moves) := by
  induction moves generalizing x with
  | nil => exact h
  | cons m moves ih =>
    have hact := h.act hm judges processing (considerate m (List.mem_cons_self ..))
    exact ih hact (Chronicle.run_manned hm [m]) fun m' hm' => considerate m' (List.mem_cons_of_mem _ hm')

end Fares

namespace Chronicle

variable {harmless : Envelope → Prop} {fits : Envelope → Bool}

theorem startLoops_going (state : σ) (queue : List Envelope) :
    Going harmless (Bridge.startLoops { state, queue } : Bridge R σ) := by
  have hnumbered : (Bridge.startLoops { state, queue } : Bridge R σ).Numbered :=
    (Bridge.numbered_of_tasks rfl).startLoops
  exact
    { shutdown := rfl
      receiver := rfl
      result := rfl
      ended := rfl
      readResult := rfl
      inbox := fun _ hitem => absurd hitem List.not_mem_nil
      inbound := fun _ he => absurd he List.not_mem_nil
      writer := rfl
      reader := rfl
      dispatcher := rfl
      others := fun t _ ht ha => absurd (hnumbered.lt ha) (Nat.not_lt.2 ht)
      numbered := hnumbered
      started := le_rfl }

theorem opening_fares (quiet : Work.Quiet s.processor.start) (state : σ) :
    Fares harmless fits (opening s state false) := by
  refine opening_of_opens (P := Fares harmless fits) quiet fun seen b hopens => ?_
  cases hopens with
  | @greets e state' => exact .goes (startLoops_going state' [e]) rfl fun _ he => absurd he List.not_mem_nil
  | @starts _ state' => exact .goes (startLoops_going state' []) rfl fun _ he => absurd he List.not_mem_nil

/-- A writer that goes on writes what is on the queue, up to the first envelope that does not fit. -/
theorem run_writer (h : Going harmless x.bridge) (hm : Manned x.bridge)
    (judges : ∀ n e, s.writeError n e = none ↔ fits e = true) :
    written (x.run s (List.replicate x.bridge.queue.length (.step 0))).seen =
      written x.seen ++ x.bridge.queue.takeWhile fits := by
  generalize hqueue : x.bridge.queue = queue
  induction queue generalizing x with
  | nil => exact (List.append_nil _).symm
  | cons e rest ih =>
    obtain ⟨more, b', hstep⟩ : ∃ more b', x.bridge.step s 0 = some (more, b') := by
      rw [Bridge.step_writer h.writer h.shutdown, hqueue]
      exact ⟨_, _, rfl⟩
    have hact : (x.act s (.step 0)).seen = x.seen ++ more ∧ (x.act s (.step 0)).bridge = b' := by
      unfold act
      dsimp only
      rw [hstep]
      exact ⟨rfl, rfl⟩
    have hmanned : Manned (x.act s (.step 0)).bridge := run_manned hm [.step 0]
    show written ((x.act s (.step 0)).run s (List.replicate rest.length (.step 0))).seen = _
    obtain ⟨e', rest', hqueue', hwrites⟩ := h.write hstep
    obtain ⟨rfl, rfl⟩ := List.cons.inj (hqueue.symm.trans hqueue')
    rcases hwrites with ⟨hnone, rfl, hb⟩ | ⟨hsome, rfl, hspent, -⟩
    · have hgoing : Going harmless (x.act s (.step 0)).bridge := by
        rw [hact.2, hb]
        exact { h with }
      rw [ih hgoing hmanned (by rw [hact.2, hb]), hact.1, List.takeWhile_cons_of_pos ((judges _ e).1 hnone),
        written_append, List.append_assoc]
      rfl
    · have hmisfit : ¬fits e = true := fun hfit => hsome ((judges _ e).2 hfit)
      rw [run_unwritten hmanned (by rw [hact.2]; exact hspent), hact.1, List.takeWhile_cons_of_neg hmisfit,
        List.append_nil, written_append]
      exact List.append_nil _

end Chronicle

/-- What comes of a stream on which nothing goes wrong but the size of an envelope. -/
structure UpToMisfit (s : Stream R σ) (harmless : Envelope → Prop) (fits : Envelope → Bool)
    (x : Chronicle R σ) : Prop where
  /-- What is written comes before the first envelope that does not fit. -/
  inOrder : written x.seen <+: (pushed x.seen).takeWhile fits
  /-- All of that is written, if the writer is given its turns. -/
  catchesUp : written (x.run s (List.replicate x.bridge.queue.length (.step 0))).seen =
    (pushed x.seen).takeWhile fits
  /-- As long as all that is pushed fits, the loops go on. -/
  goesOn : (∀ e ∈ pushed x.seen, fits e = true) → Going harmless x.bridge
  /-- A stream that was shut down was handed an envelope that does not fit, behind what it has written; and
  nothing will ever be written after it. -/
  stops : x.bridge.shutdown = true → ∃ e, fits e = false ∧ written x.seen ++ [e] <+: pushed x.seen ∧
    ∀ later, written (x.run s later).seen = written x.seen

namespace Chronicle

variable {harmless : Envelope → Prop} {fits : Envelope → Bool}

theorem run_upToMisfit (quiet : Work.Quiet s.processor.start)
    (judges : ∀ n e, s.writeError n e = none ↔ fits e = true)
    (processing : ∀ e, harmless e → Work.Asks Effect.Steady (s.processor.process e)) (state : σ)
    (considerate : ∀ m ∈ moves, m.Considerate harmless) :
    UpToMisfit s harmless fits ((opening s state false).run s moves) := by
  have manned := run_manned (s := s) (opening_manned quiet state false) moves
  have flow := run_flow quiet state false moves
  have fares : Fares harmless fits ((opening s state false).run s moves) :=
    (opening_fares quiet state).run (opening_manned quiet state false) judges processing considerate
  generalize (opening s state false).run s moves = x at manned flow fares ⊢
  obtain ⟨rest, hrest⟩ : ∃ rest, handed x.seen ++ rest = pushed x.seen := flow.inOrder
  cases fares with
  | goes going hh hf =>
    rw [hh] at hrest
    refine ⟨?_, ?_, fun _ => going, fun hshut => ?_⟩
    · rw [← hrest, List.takeWhile_append_of_pos hf]
      exact List.prefix_append _ _
    · rw [run_writer going manned judges, flow.queued going.receiver, hh, List.takeWhile_append_of_pos hf]
    · rw [going.shutdown] at hshut
      cases hshut
  | stops e hh hf misfit spent shutdown =>
    rw [hh, List.append_assoc] at hrest
    have htakes : (pushed x.seen).takeWhile fits = written x.seen := by
      rw [← hrest, List.takeWhile_append_of_pos hf, List.singleton_append,
        List.takeWhile_cons_of_neg (by rw [misfit]; exact Bool.false_ne_true), List.append_nil]
    refine ⟨?_, ?_, fun hfit => ?_, fun _ => ⟨e, misfit, ?_, run_unwritten manned spent⟩⟩
    · rw [htakes]
    · rw [htakes, run_unwritten manned spent]
    · have he := hfit e (by rw [← hrest]; exact List.mem_append_right _ (List.mem_cons_self ..))
      rw [misfit] at he
      cases he
    · rw [← hrest, ← List.append_assoc]
      exact List.prefix_append _ _

end Chronicle

end

/-! ## Frames -/

namespace Worker

/-- Whether an envelope fits into a frame of the worker's stream. -/
def fits (v : Worker) (e : Envelope) : Bool := (Frame.encode v.options.maxMessageLength e).isOk

/-- A message that does not ask the worker to end. -/
def Lasting (e : Envelope) : Prop := ∀ graceMs, e.payload ≠ .terminate graceMs

theorem writeError_eq_none (v : Worker) (n : Nat) (e : Envelope) :
    v.stream.writeError n e = none ↔ v.fits e = true := by
  unfold fits stream
  dsimp only
  cases Frame.encode v.options.maxMessageLength e with
  | ok frame => exact iff_of_true rfl rfl
  | error err => exact iff_of_false (Option.some_ne_none _) Bool.false_ne_true

/-- On the stream of a worker whose host sends well-formed frames, no request to terminate, and does not
hang up, everything that is pushed is written up to the first envelope that does not fit into a frame;
that one has the stream shut down, and what was pushed after it is lost. -/
theorem writes_upToMisfit (v : Worker) (world : World) (moves : List (Move Op.Reply))
    (considerate : ∀ m ∈ moves, m.Considerate Lasting) :
    UpToMisfit v.stream Lasting v.fits ((Chronicle.opening v.stream world false).run v.stream moves) :=
  Chronicle.run_upToMisfit v.start_quiet v.writeError_eq_none (fun _ he => v.process_steady he) world considerate

end Worker

/-! ## A response that does not fit -/

namespace Verbose

/-- A worker with a function that returns more than fits into a frame. -/
def worker : Worker where
  options := { workerId := "w-1", maxMessageLength := 240 }
  invoker := { pipeline := { handlers := fun _ _ => .done (.ok { returned := some (.text "more than will fit") }) } }

def world : World where
  functions := ⟨[{ id := "f", name := "file", entryPoint := "file", outputs := [returnBinding], handler := 0 }]⟩
  state := .ready

def greeting : Envelope := .make 0 "" (.startStream "w-1")

def response : Envelope :=
  .make 0 "a" (.invocationResponse ⟨"i", [], some (.text "more than will fit"), .success, none, none⟩)

def status : Envelope := .make 0 "b" .statusResponse

/-- An invocation and a request for the status, each passed on to a task. -/
def receiving : List (Move Op.Reply) :=
  [.deliver [.ok (.make 0 "a" (.invocationRequest { invocationId := "i", functionId := "f" })),
    .ok (.make 0 "b" .statusRequest)], .step 1, .step 1, .step 2, .step 2]

def steps (t n : Nat) : List (Move Op.Reply) := List.replicate n (.step t)

theorem considerate_steps (t n : Nat) : ∀ m ∈ steps t n, m.Considerate Worker.Lasting := by
  intro m hm
  rw [List.eq_of_mem_replicate hm]
  exact trivial

theorem considerate_receiving : ∀ m ∈ receiving, m.Considerate Worker.Lasting := by
  intro m hm
  rcases List.mem_cons.1 hm with rfl | hm
  · intro item hitem
    rcases List.mem_cons.1 hitem with rfl | hitem
    · exact ⟨_, rfl, nofun⟩
    · rw [List.mem_singleton.1 hitem]
      exact ⟨_, rfl, nofun⟩
  · fin_cases hm <;> exact trivial

theorem considerate_append {l₁ l₂ : List (Move Op.Reply)} (h₁ : ∀ m ∈ l₁, m.Considerate Worker.Lasting)
    (h₂ : ∀ m ∈ l₂, m.Considerate Worker.Lasting) : ∀ m ∈ l₁ ++ l₂, m.Considerate Worker.Lasting := fun m hm =>
  (List.mem_append.1 hm).elim (h₁ m) (h₂ m)

/-- The status is sent before the invocation is over. -/
def early : List (Move Op.Reply) := receiving ++ (steps 4 10 ++ steps 3 30)

/-- Both responses are on the queue, and the one that fits is the first of them. -/
theorem writes_upToMisfit_early :
    (∀ m ∈ early, m.Considerate Worker.Lasting) ∧
      pushed ((Chronicle.opening worker.stream world false).run worker.stream early).seen =
        [greeting, status, response] ∧
      written (((Chronicle.opening worker.stream world false).run worker.stream early).run worker.stream
        (steps 0 3)).seen = [greeting, status] := by
  have hconsiderate : ∀ m ∈ early, m.Considerate Worker.Lasting :=
    considerate_append considerate_receiving (considerate_append (considerate_steps 4 10) (considerate_steps 3 30))
  have hpushed : pushed ((Chronicle.opening worker.stream world false).run worker.stream early).seen =
      [greeting, status, response] := by decide +kernel
  have hqueue : ((Chronicle.opening worker.stream world false).run worker.stream early).bridge.queue.length = 3 := by
    decide +kernel
  have hcatches := (worker.writes_upToMisfit world early hconsiderate).catchesUp
  rw [hqueue, hpushed] at hcatches
  refine ⟨hconsiderate, hpushed, hcatches.trans ?_⟩
  decide +kernel

/-- The invocation is over before the status is sent; then the writer and the other loops have their turns
until the stream is over. -/
def late : List (Move Op.Reply) :=
  receiving ++ (steps 3 30 ++ (steps 4 10 ++ (steps 0 3 ++ (steps 1 1 ++ (steps 2 1 ++ steps 0 1)))))

/-- The greeting and the status fit, and nothing goes wrong but that the response of the invocation does
not; yet the stream comes to its end and the status is never written. -/
theorem misfit_silences :
    (∀ m ∈ late, m.Considerate Worker.Lasting) ∧
      worker.fits greeting = true ∧ worker.fits response = false ∧ worker.fits status = true ∧
      pushed ((Chronicle.opening worker.stream world false).run worker.stream late).seen =
        [greeting, response, status] ∧
      written ((Chronicle.opening worker.stream world false).run worker.stream late).seen = [greeting] ∧
      ((Chronicle.opening worker.stream world false).run worker.stream late).bridge.result =
        some (.error (.write "message too large: 256 bytes (max 240)")) :=
  ⟨considerate_append considerate_receiving (considerate_append (considerate_steps 3 30) (considerate_append
    (considerate_steps 4 10) (considerate_append (considerate_steps 0 3) (considerate_append
    (considerate_steps 1 1) (considerate_append (considerate_steps 2 1) (considerate_steps 0 1)))))),
    by decide +kernel, by decide +kernel, by decide +kernel, by decide +kernel, by decide +kernel,
    by decide +kernel⟩

end Verbose

end FunctionWorker
