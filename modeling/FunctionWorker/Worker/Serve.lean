/-
A worker on a stream of octets: frames from the host are decoded as they come in, up to the first
error, and envelopes for the host are written as frames.
-/
import FunctionWorker.Bridge.Schedule
import FunctionWorker.Frame.Codec
import FunctionWorker.Worker.Process

namespace FunctionWorker

namespace Worker

/-- The worker as a processor of messages. -/
def processor (w : Worker) : Processor Op.Reply World where
  perform := World.perform
  start := w.start
  process := w.process
  failureResponse := w.failureResponse
  isSignalled s t := s.cancellations.isSignalled t
  isIdle s := s.cancellations.isEmpty

/-- The worker with a sink of frames, which refuses envelopes that do not fit. -/
def stream (w : Worker) : Stream Op.Reply World where
  processor := w.processor
  writeError _ e :=
    match Frame.encode w.options.maxMessageLength e with
    | .ok _ => none
    | .error err => some err.message

end Worker

namespace Frame

/-- The receiving end of a stream of frames. -/
structure Intake where
  decoder : Decoder
  received : Bytes := []
  /-- Whether reading ended with an error. -/
  broken : Bool := false

namespace Intake

/-- Takes frames as long as there are complete ones; a frame takes octets, so there are no more
frames than octets. -/
def takeFrames : Nat → Intake → List (Except String Envelope) × Intake
  | 0, x => ([], x)
  | fuel + 1, x =>
    match x.decoder.step x.received with
    | (.ok none, d, rest) => ([], { x with decoder := d, received := rest })
    | (.ok (some e), d, rest) =>
      let (more, x) := takeFrames fuel { x with decoder := d, received := rest }
      (.ok e :: more, x)
    | (.error e, d, rest) =>
      ([.error e.message], { x with decoder := d, received := rest, broken := true })

/-- Octets come in. -/
def feed (x : Intake) (octets : Bytes) : List (Except String Envelope) × Intake :=
  if x.broken then ([], x)
  else
    let received := x.received ++ octets
    takeFrames (received.length + 1) { x with received }

/-- The octets end; a frame that is not complete is an error. -/
def finish (x : Intake) : List (Except String Envelope) :=
  if x.broken then []
  else
    match x.decoder.finish x.received with
    | (.ok none, _, _) => []
    | (.ok (some e), _, _) => [.ok e]
    | (.error e, _, _) => [.error e.message]

end Intake

end Frame

end FunctionWorker
