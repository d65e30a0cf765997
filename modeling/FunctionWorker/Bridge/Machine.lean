/-
The stream between host and worker as a machine of tasks. The reader takes envelopes from the host
and passes them on; the dispatcher starts a task for each; every such task processes its envelope
and sends at most one response; the writer hands what is on the outbound queue to the sink. When
the stream is shut down, by the reader, the writer, a watching task or from outside, the reader
stops, and the writer empties the queue and stops.

A step is one atomic action of one task; `step` takes the task as its label, so that a run is a
list of labels in any order. The scheduler of `Bridge.Schedule` is one way to choose them.
-/
import FunctionWorker.Bridge.Outbound
import FunctionWorker.Worker.Error

namespace FunctionWorker

/-- What processes the messages of a stream, over a state of its own. -/
structure Processor {Op : Type} (R : Op → Type) (σ : Type) where
  perform : (op : Op) → σ → R op × σ
  /-- The envelope that opens the stream. -/
  start : Work R (Option Envelope)
  process : Envelope → Work R (Option Envelope)
  /-- The response to a request whose processing panicked, at a time in milliseconds. -/
  failureResponse : Nat → RequestSummary → String → Option Envelope
  isSignalled : σ → Nat → Bool
  isIdle : σ → Bool

/-- A processor and the sink that envelopes are written to. -/
structure Stream {Op : Type} (R : Op → Type) (σ : Type) where
  processor : Processor R σ
  /-- Why the sink refuses an envelope after so many others, if it does. -/
  writeError : Nat → Envelope → Option String

/-- What can be seen of a step. -/
inductive Occurrence where
  /-- The reader passed on an envelope. -/
  | received (e : Envelope)
  /-- A task was started for an envelope. -/
  | dispatched (e : Envelope)
  /-- An envelope was put on the outbound queue. -/
  | pushed (e : Envelope)
  /-- There was no receiver for an envelope. -/
  | refused (e : Envelope)
  /-- The sink took an envelope. -/
  | written (e : Envelope)
  /-- The sink failed to take an envelope. -/
  | failed (e : Envelope)

/-- Where the writer is. -/
inductive WriterPhase where
  | receiving
  /-- After the shutdown: the rest of the queue is written. -/
  | draining
  | closing (r : Except BridgeError Unit)
  /-- The receiver of the queue is given up. -/
  | leaving (r : Except BridgeError Unit)
  /-- The other loops are waited for. -/
  | joining (r : Except BridgeError Unit)

inductive Activity {Op : Type} (R : Op → Type) where
  | reader
  | dispatcher
  | writer (phase : WriterPhase)
  | routine (r : Work R Unit)
  /-- A routine that goes on at a time. -/
  | sleeping (deadline : Nat) (rest : Work R Unit)
  /-- A routine that goes on when a token is signalled. -/
  | awaiting (token : Nat) (rest : Work R Unit)
  /-- Closes the stream at a deadline, or when the processor is found idle at a poll. -/
  | watch (deadline nextPoll : Nat)

/-- Milliseconds between two polls of a watching task. -/
def pollInterval : Nat := 10

structure Bridge {Op : Type} (R : Op → Type) (σ : Type) where
  state : σ
  /-- The time in milliseconds. -/
  clock : Nat := 0
  shutdown : Bool := false
  /-- The outbound queue. -/
  queue : List Envelope := []
  /-- Whether the queue still has a receiver. -/
  receiver : Bool := true
  /-- What the host has sent and the reader has not taken. -/
  inbox : List (Except String Envelope) := []
  /-- Whether the host has closed its side. -/
  ended : Bool := false
  /-- What the reader has passed on to the dispatcher. -/
  inbound : List Envelope := []
  readResult : Option (Except BridgeError Unit) := none
  dispatcherDone : Bool := false
  /-- How many envelopes the sink has taken. -/
  written : Nat := 0
  /-- The result of the stream, once all loops have ended. -/
  result : Option (Except BridgeError Unit) := none
  /-- The tasks that have not ended, by number. -/
  tasks : List (Nat × Activity R) := []
  nextTask : Nat := 0

namespace Bridge

variable {Op : Type} {R : Op → Type} {σ α : Type}

/-! ## Tasks -/

/-- Starts a task; its number is the next one. -/
def spawn (b : Bridge R σ) (a : Activity R) : Bridge R σ :=
  { b with tasks := b.tasks ++ [(b.nextTask, a)], nextTask := b.nextTask + 1 }

def activity? (b : Bridge R σ) (t : Nat) : Option (Activity R) := b.tasks.lookup t

/-- Lets a task go on as another activity. -/
def become (b : Bridge R σ) (t : Nat) (a : Activity R) : Bridge R σ :=
  { b with tasks := b.tasks.map fun x => if x.1 = t then (t, a) else x }

/-- Ends a task. -/
def finish (b : Bridge R σ) (t : Nat) : Bridge R σ :=
  { b with tasks := b.tasks.filter fun x => x.1 ≠ t }

/-! ## Effects -/

/-- Puts an envelope on the queue if there is a receiver. -/
def push (b : Bridge R σ) (e : Envelope) : List Occurrence × Bool × Bridge R σ :=
  if b.receiver then ([.pushed e], true, { b with queue := b.queue ++ [e] })
  else ([.refused e], false, b)

def perform (p : Processor R σ) :
    (x : Effect Op) → Bridge R σ → List Occurrence × x.Reply R × Bridge R σ
  | .own op, b => let (a, s) := p.perform op b.state; ([], a, { b with state := s })
  | .now, b => ([], b.clock, b)
  | .isClosed, b => ([], b.shutdown, b)
  | .push e, b => b.push e
  | .close, b => ([], (), { b with shutdown := true })
  | .watch graceMs, b => ([], (), b.spawn (.watch (b.clock + graceMs) b.clock))

/-- Runs a routine to its end at once, every wait being over. -/
def runNow (p : Processor R σ) :
    Work R α → Bridge R σ → List Occurrence × Except Panic α × Bridge R σ
  | .done a, b => ([], .ok a, b)
  | .panic x, b => ([], .error x, b)
  | .call x k, b =>
    let (seen, a, b) := perform p x b
    let (more, r, b) := runNow p (k a) b
    (seen ++ more, r, b)
  | .wait _ rest, b => runNow p rest b

/-! ## The work on an envelope -/

/-- Sends a response if there is one. -/
def respond (response : Option Envelope) : Work R Unit :=
  match response with
  | none => .done ()
  | some e => (Work.send e).bind fun _ => .done ()

/-- What comes of processing an envelope: the response of the processor, or the one to a panic. -/
def outcome (p : Processor R σ) (e : Envelope) : Work R (Option Envelope) := do
  match ← (p.process e).attempt with
  | .ok response => return response
  | .error x =>
    let now ← Work.now
    return p.failureResponse now (RequestSummary.of e) x.message

/-- Processes an envelope and sends the response. -/
def dispatch (p : Processor R σ) (e : Envelope) : Work R Unit := do
  let response ← outcome p e
  respond response

/-! ## Steps of the loops -/

/-- Whether the dispatcher will get no more envelopes. -/
def inboundClosed (b : Bridge R σ) : Bool := b.readResult.isSome

def stepReader (b : Bridge R σ) (t : Nat) : Option (List Occurrence × Bridge R σ) :=
  if b.shutdown then some ([], { b with readResult := some (.ok ()) }.finish t)
  else
    match b.inbox with
    | .ok e :: rest =>
      some ([.received e], { b with inbox := rest, inbound := b.inbound ++ [e] })
    | .error reason :: rest =>
      some ([], { b with
        inbox := rest, shutdown := true, readResult := some (.error (.read reason)) }.finish t)
    | [] =>
      if b.ended then
        some ([], { b with shutdown := true, readResult := some (.ok ()) }.finish t)
      else none

def stepDispatcher (p : Processor R σ) (b : Bridge R σ) (t : Nat) :
    Option (List Occurrence × Bridge R σ) :=
  match b.inbound with
  | e :: rest =>
    some ([.dispatched e], { b with inbound := rest }.spawn (.routine (dispatch p e)))
  | [] => if b.inboundClosed then some ([], { b with dispatcherDone := true }.finish t) else none

/-- Writes the first envelope of the queue, or ends the writing with an error. -/
def writeFirst (s : Stream R σ) (b : Bridge R σ) (t : Nat) (e : Envelope)
    (rest : List Envelope) : List Occurrence × Bridge R σ :=
  match s.writeError b.written e with
  | none => ([.written e], { b with queue := rest, written := b.written + 1 })
  | some reason =>
    ([.failed e],
      { b with queue := rest, shutdown := true }.become t
        (.writer (.leaving (.error (.write reason)))))

def stepWriter (s : Stream R σ) (b : Bridge R σ) (t : Nat) :
    WriterPhase → Option (List Occurrence × Bridge R σ)
  | .receiving =>
    match b.queue with
    | e :: rest => some (writeFirst s b t e rest)
    | [] => if b.shutdown then some ([], b.become t (.writer .draining)) else none
  | .draining =>
    match b.queue with
    | e :: rest => some (writeFirst s b t e rest)
    | [] => some ([], b.become t (.writer (.closing (.ok ()))))
  | .closing r => some ([], b.become t (.writer (.leaving r)))
  | .leaving r =>
    some ([], { b with queue := [], receiver := false, shutdown := true }.become t
      (.writer (.joining r)))
  | .joining r =>
    match b.readResult with
    | some readResult =>
      if b.dispatcherDone then
        let result :=
          match r with
          | .ok () => readResult
          | .error e => .error e
        some ([], { b with result := some result }.finish t)
      else none
    | none => none

/-- A watching task polls when the time has come, and gives up at its deadline. -/
def stepWatch (p : Processor R σ) (b : Bridge R σ) (t deadline nextPoll : Nat) :
    Option (List Occurrence × Bridge R σ) :=
  if nextPoll ≤ b.clock ∧ p.isIdle b.state then
    some ([], { b with shutdown := true }.finish t)
  else if deadline ≤ b.clock then some ([], { b with shutdown := true }.finish t)
  else if nextPoll ≤ b.clock then
    some ([], b.become t (.watch deadline (b.clock + pollInterval)))
  else none

/-- One action of a routine. -/
def stepRoutine (p : Processor R σ) (b : Bridge R σ) (t : Nat) :
    Work R Unit → List Occurrence × Bridge R σ
  | .done () => ([], b.finish t)
  | .panic _ => ([], b.finish t)
  | .call x k =>
    let (seen, a, b) := perform p x b
    (seen, b.become t (.routine (k a)))
  | .wait (.sleep ms) rest => ([], b.become t (.sleeping (b.clock + ms) rest))
  | .wait (.signal token) rest => ([], b.become t (.awaiting token rest))

/-- One step of a task; `none` if the task cannot go on as things stand. -/
def step (s : Stream R σ) (b : Bridge R σ) (t : Nat) : Option (List Occurrence × Bridge R σ) :=
  match b.activity? t with
  | none => none
  | some .reader => b.stepReader t
  | some .dispatcher => b.stepDispatcher s.processor t
  | some (.writer phase) => b.stepWriter s t phase
  | some (.routine r) => some (b.stepRoutine s.processor t r)
  | some (.sleeping deadline rest) =>
    if deadline ≤ b.clock then some ([], b.become t (.routine rest)) else none
  | some (.awaiting token rest) =>
    if s.processor.isSignalled b.state token then some ([], b.become t (.routine rest)) else none
  | some (.watch deadline nextPoll) => b.stepWatch s.processor t deadline nextPoll

/-! ## From outside -/

/-- Starts the loops. -/
def startLoops (b : Bridge R σ) : Bridge R σ :=
  ((b.spawn (.writer .receiving)).spawn .reader).spawn .dispatcher

/-- Opens the stream: the processor's first envelope is sent, and the loops are started. A stream that
was shut down before does not take the envelope, and ends. -/
def opening (s : Stream R σ) (b : Bridge R σ) : List Occurrence × Bridge R σ :=
  let (seen, first, b) := runNow s.processor s.processor.start b
  match first with
  | .ok (some e) =>
    let (more, taken, b) := runNow s.processor (Work.send e) b
    match taken with
    | .ok true => (seen ++ more, b.startLoops)
    | _ => (seen ++ more, { b with receiver := false, result := some (.error .closed) })
  | _ => (seen, b.startLoops)

def opened (s : Stream R σ) (state : σ) : List Occurrence × Bridge R σ := opening s { state }

/-- The host sends. -/
def deliver (b : Bridge R σ) (items : List (Except String Envelope)) : Bridge R σ :=
  if b.ended then b else { b with inbox := b.inbox ++ items }

/-- The host closes its side. -/
def hangUp (b : Bridge R σ) : Bridge R σ := { b with ended := true }

/-- The stream is shut down. -/
def shutDown (b : Bridge R σ) : Bridge R σ := { b with shutdown := true }

/-- A millisecond passes. -/
def tick (b : Bridge R σ) : Bridge R σ := { b with clock := b.clock + 1 }

/-- The description of a stream. -/
def describe (b : Bridge R σ) : String :=
  Text.record "StreamBridge" [("closed", toString b.shutdown)] true

end Bridge

end FunctionWorker
