/-
Envelopes as frames. One encoder makes a frame from scratch, in a buffer that it uses again and
again, the other appends it to what is waiting to be written; both refuse an envelope whose payload
is beyond the limit, and then leave their buffers as they are. The decoder takes frames from the
octets received so far. A header that has been accepted is remembered while its payload is still to
come, a header that is refused stays where it is, and a payload is consumed whether or not it can be
read.
-/
import FunctionWorker.Frame.Header
import FunctionWorker.Wire.Archive

namespace FunctionWorker.Frame

/-- The limit in force: no frame can be longer than its header can tell. -/
def capacity (limit : Nat) : Nat := min limit maxPayload

/-! ## Encoding -/

/-- Distances in an archive are words of 32 bits with a sign. -/
def maxArchive : Nat := 0x7fffffff

/-- The payload of an envelope. -/
def serialise (limit : Nat) (e : Envelope) : Except ProtocolError Bytes :=
  let payload := Archive.Format.envelope.write e
  if maxArchive < payload.length then .error (.serialisation "archive too large")
  else if capacity limit < payload.length then
    .error (.messageTooLarge payload.length (capacity limit))
  else .ok payload

/-- The header of a payload, if its length can be told. -/
def headerFor (length : Nat) : Except ProtocolError Header :=
  if length ≤ maxPayload then .ok (.ofLength (UInt32.ofNat length))
  else .error (.messageTooLarge length maxPayload)

/-- The frame of an envelope. -/
def encode (limit : Nat) (e : Envelope) : Except ProtocolError Bytes :=
  match serialise limit e with
  | .error err => .error err
  | .ok payload =>
    match headerFor payload.length with
    | .error err => .error err
    | .ok header => .ok (header.encode ++ payload)

/-- An encoder that makes every frame in the same buffer. -/
structure Encoder where
  limit : Nat
  buffer : Bytes := []
deriving DecidableEq, Repr

namespace Encoder

def clear (x : Encoder) : Encoder := { x with buffer := [] }

def extend (x : Encoder) (octets : Bytes) : Encoder := { x with buffer := x.buffer ++ octets }

/-- Makes the frame of an envelope in the buffer, in place of the one before. -/
def encode (x : Encoder) (e : Envelope) : Except ProtocolError Bytes × Encoder :=
  match serialise x.limit e with
  | .error err => (.error err, x)
  | .ok payload =>
    match headerFor payload.length with
    | .error err => (.error err, x)
    | .ok header =>
      let x := (x.clear.extend header.encode).extend payload
      (.ok x.buffer, x)

end Encoder

/-- Appends the frame of an envelope to what is waiting to be written. -/
def append (limit : Nat) (e : Envelope) (waiting : Bytes) : Except ProtocolError Unit × Bytes :=
  match serialise limit e with
  | .error err => (.error err, waiting)
  | .ok payload =>
    match headerFor payload.length with
    | .error err => (.error err, waiting)
    | .ok header => (.ok (), waiting ++ header.encode ++ payload)

/-! ## Decoding -/

/-- The envelope of a payload. -/
def decode (payload : Bytes) : Except ProtocolError Envelope :=
  match Archive.Format.envelope.read payload with
  | some e => .ok e
  | none => .error (.deserialisation "malformed archive")

/-- A header whose kind is known, whose version is supported and whose payload is within the
limit. -/
def acceptHeader (limit : Nat) (octets : Bytes) : Except ProtocolError Header :=
  match Header.decode octets with
  | .error e => .error e
  | .ok h =>
    if h.isSupported then
      match h.checkLength (capacity limit) with
      | .error e => .error e
      | .ok () => .ok h
    else .error (.unsupportedVersion h.version)

/-- What a decoder remembers between calls: a header whose payload is still to come. -/
structure Decoder where
  limit : Nat
  pending : Option Header := none
deriving DecidableEq, Repr

namespace Decoder

/-- What one call yields: an envelope or an error, or nothing while a frame is incomplete. -/
abbrev Yield := Except ProtocolError (Option Envelope)

/-- Takes the payload of an accepted header, once it is there. -/
def takePayload (d : Decoder) (h : Header) (received : Bytes) : Yield × Decoder × Bytes :=
  if received.length < h.length.toNat then (.ok none, { d with pending := some h }, received)
  else
    ((decode (received.take h.length.toNat)).map some, { d with pending := none },
      received.drop h.length.toNat)

/-- Takes at most one frame from the octets received. -/
def step (d : Decoder) (received : Bytes) : Yield × Decoder × Bytes :=
  match d.pending with
  | some h => d.takePayload h received
  | none =>
    if received.length < headerSize then (.ok none, d, received)
    else
      match acceptHeader d.limit (received.take headerSize) with
      | .error e => (.error e, d, received)
      | .ok h => d.takePayload h (received.drop headerSize)

/-- A step at the end of the stream, where octets left over are an error. -/
def finish (d : Decoder) (received : Bytes) : Yield × Decoder × Bytes :=
  match d.step received with
  | (.ok none, d, rest) =>
    if rest = [] then (.ok none, d, rest)
    else (.error (.io "bytes remaining on stream"), d, rest)
  | r => r

end Decoder

end FunctionWorker.Frame
