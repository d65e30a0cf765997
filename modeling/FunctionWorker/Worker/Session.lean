/-
Sessions: a worker driven from outside, one step of its host at a time, with the clock in the
host's hands. After every step whatever can run has run. On a stream the host sends octets and
receives what the sink was given. Without a stream every envelope is processed in a task of its
own and its response is received in any case; only log records take the outbound queue.
-/
import FunctionWorker.Worker.Serve

namespace FunctionWorker

structure Session where
  worker : Worker
  /-- Whether there is a stream. -/
  streaming : Bool
  schedule : Schedule Op.Reply World
  intake : Frame.Intake
  /-- Whether the host has closed its side. -/
  hungUp : Bool := false
  /-- How much of the journal has been read. -/
  read : Nat := 0

namespace Session

def world (s : Session) : World := s.schedule.bridge.state

/-- More steps than any run between two steps of a host takes. -/
def fuel : Nat := 100000000

/-- Changes the bridge and lets run what can run. -/
def act (s : Session) (change : Bridge Op.Reply World → Bridge Op.Reply World) : Session :=
  { s with schedule := s.schedule.act s.worker.stream fuel change }

/-- A session with a worker that has just been built. -/
def start (w : Worker) (services : ServiceRegistrations) (streaming : Bool) : Session :=
  let world := w.world services
  let (seen, bridge) : List Occurrence × Bridge Op.Reply World :=
    if streaming then Bridge.opened w.stream world
    else ([], Bridge.spawn { state := world } (.writer .receiving))
  let s : Session :=
    { worker := w, streaming, schedule := { bridge, seen := seen.reverse }
      intake := { decoder := { limit := w.options.maxMessageLength } } }
  s.act id

/-! ## Steps of the host -/

/-- Runs a job at once, before anything else. -/
def now {α : Type} (s : Session) (job : Job α) : Except Panic α × Session :=
  let (seen, r, bridge) := Bridge.runNow s.worker.processor job s.schedule.bridge
  let schedule := { s.schedule with bridge, seen := seen.reverse ++ s.schedule.seen }
  (r, { s with schedule }.act id)

/-- The work on an envelope where there is no stream. -/
def direct (w : Worker) (e : Envelope) : Job Unit := do
  let response ←
    match ← (w.process e).attempt with
    | .ok r => pure r
    | .error _ => do
      let now ← Work.now
      pure (w.failureResponse now (RequestSummary.of e) "panicked")
  match response with
  | none => return ()
  | some r => .call (.push r) fun (_ : Bool) => .done ()

/-- The host sends octets; none can be sent after it hung up. -/
def feed (s : Session) (octets : Bytes) : Session :=
  if s.hungUp then s
  else
    let (items, intake) := s.intake.feed octets
    { s with intake }.act (·.deliver items)

/-- The host sends an envelope. -/
def send (s : Session) (e : Envelope) : Session :=
  if s.streaming then
    match Frame.encode Frame.maxPayload e with
    | .ok octets => s.feed octets
    | .error _ => s
  else s.act (·.spawn (.routine (direct s.worker e)))

/-- The host closes its side. -/
def hangUp (s : Session) : Session :=
  { s with hungUp := true }.act fun b => (b.deliver s.intake.finish).hangUp

/-- The host lets time pass. -/
def advance (s : Session) (ms : Nat) : Session :=
  { s with schedule := s.schedule.pass s.worker.stream fuel ms }

/-! ## What there is to see -/

/-- Whether the worker on a stream has ended, and how. -/
def result (s : Session) : Option (Except BridgeError Unit) := s.schedule.bridge.result

/-- The context that was kept last under a name. -/
def kept (s : Session) (name : String) : Option ContextId :=
  s.world.journal.foldl
    (fun found n =>
      match n with
      | .kept other c => if other = name then some c else found
      | .event _ _ _ => found) none

/-- The envelopes and notes since the last look. -/
def look (s : Session) : List Envelope × List Note × Session :=
  let sent (x : Occurrence) : Option Envelope :=
    match x with
    | .written e => if s.streaming || e.payload.isLog then some e else none
    | .pushed e | .refused e => if s.streaming || e.payload.isLog then none else some e
    | _ => none
  (s.schedule.seen.reverse.filterMap sent, s.world.journal.drop s.read,
    { s with read := s.world.journal.length, schedule := { s.schedule with seen := [] } })

end Session

end FunctionWorker
