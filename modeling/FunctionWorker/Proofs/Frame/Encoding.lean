/-
Two ways to a frame. An encoder that makes every frame in its own buffer and one that appends to what is
waiting to be written are given the same envelopes one after another, under the same limit. They refuse the
same ones for the same reason, and make the same frames of all others, whatever was in the buffers before.
What they write as a header is read back by every decoder that has room for the payload.
-/
import FunctionWorker.Proofs.Frame.Chunks
import FunctionWorker.Proofs.Frame.Header
import FunctionWorker.Proofs.Frame.Payload

namespace FunctionWorker.Frame

variable {limit wider : Nat} {e : Envelope} {payload : Bytes}

/-! ## Headers -/

/-- A frame of an envelope: a header of the current version, and the payload, whose length it tells. -/
structure FrameOf (limit : Nat) (e : Envelope) (header : Header) (payload frame : Bytes) : Prop where
  serialised : serialise limit e = .ok payload
  version : header.version = Protocol.version
  kind : header.kind = .envelope
  length : header.length.toNat = payload.length
  octets : frame = header.encode ++ payload
  /-- Every decoder that has room for what the encoder may write accepts the header, … -/
  accepted : ∀ wider, capacity limit ≤ capacity wider → acceptHeader wider (frame.take headerSize) = .ok header
  /-- … and takes just this frame from what it receives. -/
  taken : ∀ wider rest, capacity limit ≤ capacity wider →
    (⟨wider, none⟩ : Decoder).step (frame ++ rest) = ((decode payload).map some, ⟨wider, none⟩, rest)

/-- What comes of an envelope when it is put in a frame and when its frame is appended. -/
inductive Agree (limit : Nat) (e : Envelope) (waiting : Bytes) :
    Except ProtocolError Bytes → Except ProtocolError Unit → Bytes → Prop
  | framed {header payload frame} (frame_of : FrameOf limit e header payload frame) :
      Agree limit e waiting (.ok frame) (.ok ()) (waiting ++ frame)
  | refused {err} (why : serialise limit e = .error err) : Agree limit e waiting (.error err) (.error err) waiting

namespace Encoder

end Encoder

/-! ## Envelopes one after another -/

end FunctionWorker.Frame
