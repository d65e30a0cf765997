/-
Frames. On the stream every envelope follows a header of eight octets: the version of the
protocol, the kind of the frame and the length of the payload, each most significant octet first.
-/
import FunctionWorker.Wire.Envelope

namespace FunctionWorker

/-! ## Errors of the protocol -/

inductive ProtocolError where
  | unsupportedVersion (version : UInt16)
  | messageTooLarge (size limit : Nat)
  | unknownFrameKind (kind : UInt16)
  | serialisation (detail : String)
  | deserialisation (detail : String)
  | io (detail : String)
deriving DecidableEq, Repr

namespace ProtocolError

def message : ProtocolError → String
  | .unsupportedVersion v => s!"unsupported protocol version: {v.toNat}"
  | .messageTooLarge size limit => s!"message too large: {size} bytes (max {limit})"
  | .unknownFrameKind k => s!"unknown frame kind: {k.toNat}"
  | .serialisation d => s!"serialisation error: {d}"
  | .deserialisation d => s!"deserialisation error: {d}"
  | .io d => s!"I/O error: {d}"

/-- Whether the frames behind the error can still be read. A malformed header or a failing
transport loses the place; a malformed payload does not. -/
def isRecoverable : ProtocolError → Bool
  | .serialisation _ | .deserialisation _ => true
  | _ => false

end ProtocolError

namespace Frame

/-- Octets of a header. -/
def headerSize : Nat := 8

/-- The greatest payload whose length a header can tell. -/
def maxPayload : Nat := 0xffffffff

/-- The limit on payloads unless another one is set. -/
def defaultLimit : Nat := 10 * 1024 * 1024

inductive Kind where
  | envelope
deriving DecidableEq, Inhabited, Repr

namespace Kind

def toWord : Kind → UInt16
  | .envelope => 1

def ofWord? (w : UInt16) : Option Kind := if w = 1 then some .envelope else none

end Kind

structure Header where
  version : UInt16
  kind : Kind
  length : UInt32
deriving DecidableEq, Inhabited, Repr

namespace Header

/-- The header of an envelope. -/
def ofLength (length : UInt32) : Header := ⟨Protocol.version, .envelope, length⟩

def isSupported (h : Header) : Bool := Protocol.isSupported h.version

/-- Refuses a payload beyond a limit. -/
def checkLength (h : Header) (limit : Nat) : Except ProtocolError Unit :=
  if limit < h.length.toNat then .error (.messageTooLarge h.length.toNat limit) else .ok ()

/-- So many octets of a number, most significant first. -/
def bigEndian : Nat → Nat → Bytes
  | 0, _ => []
  | width + 1, n => UInt8.ofNat (n / Nat.pow 256 width % 256) :: bigEndian width n

/-- The number that octets stand for, most significant first. -/
def ofBigEndian (b : Bytes) : Nat := b.foldl (fun n o => 256 * n + o.toNat) 0

def encode (h : Header) : Bytes :=
  bigEndian 2 h.version.toNat ++ bigEndian 2 h.kind.toWord.toNat ++ bigEndian 4 h.length.toNat

/-- Reads the eight octets of a header. Only the kind is checked. -/
def decode (b : Bytes) : Except ProtocolError Header :=
  let word := UInt16.ofNat (ofBigEndian ((b.drop 2).take 2))
  match Kind.ofWord? word with
  | none => .error (.unknownFrameKind word)
  | some kind =>
    .ok ⟨UInt16.ofNat (ofBigEndian (b.take 2)), kind,
      UInt32.ofNat (ofBigEndian ((b.drop 4).take 4))⟩

end Header

end Frame

end FunctionWorker
