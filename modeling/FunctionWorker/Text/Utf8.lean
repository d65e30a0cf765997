/-
Octet strings and their reading as text. A byte string is a list of octets, a text is written as
its UTF-8 octets, and octets that are no text are refused with the place and extent of the first
fault: the length of the longest valid prefix, and how many octets after it begin a well-formed
sequence that the input then breaks off or contradicts.
-/

namespace FunctionWorker

/-- A byte string. -/
abbrev Bytes := List UInt8

namespace Text

/-- The octets of a text. -/
def utf8 (s : String) : Bytes := s.toUTF8.data.toList

/-- Why octets are no text. -/
inductive Utf8Error where
  /-- `extent` octets from `index` on are no well-formed sequence. -/
  | invalid (extent index : Nat)
  /-- The input ends inside the sequence that starts at `index`. -/
  | incomplete (index : Nat)
deriving DecidableEq, Repr

def Utf8Error.message : Utf8Error → String
  | .invalid extent index => s!"invalid utf-8 sequence of {extent} bytes from index {index}"
  | .incomplete index => s!"incomplete utf-8 byte sequence from index {index}"

namespace Utf8

def isContinuation (b : UInt8) : Bool := 0x80 ≤ b && b ≤ 0xbf

/-- The range of the second octet that a leading octet admits, and how many octets follow the
leading one; `none` for an octet that leads no sequence. -/
def lead (b : UInt8) : Option (Nat × UInt8 × UInt8) :=
  if b < 0x80 then some (0, 0, 0)
  else if b < 0xc2 then none
  else if b ≤ 0xdf then some (1, 0x80, 0xbf)
  else if b = 0xe0 then some (2, 0xa0, 0xbf)
  else if b = 0xed then some (2, 0x80, 0x9f)
  else if b ≤ 0xef then some (2, 0x80, 0xbf)
  else if b = 0xf0 then some (3, 0x90, 0xbf)
  else if b ≤ 0xf3 then some (3, 0x80, 0xbf)
  else if b = 0xf4 then some (3, 0x80, 0x8f)
  else none

/-- Takes the octets after the second one; `extent` octets of the sequence are behind. -/
def continuation (index : Nat) : Nat → Nat → Bytes → Except Utf8Error Bytes
  | 0, _, rest => .ok rest
  | _ + 1, _, [] => .error (.incomplete index)
  | more + 1, extent, b :: rest =>
    if isContinuation b then continuation index more (extent + 1) rest
    else .error (.invalid extent index)

/-- Takes one sequence, which starts at `index`. -/
def sequence (index : Nat) : Bytes → Except Utf8Error Bytes
  | [] => .ok []
  | b :: rest =>
    match lead b with
    | none => .error (.invalid 1 index)
    | some (0, _, _) => .ok rest
    | some (more + 1, low, high) =>
      match rest with
      | [] => .error (.incomplete index)
      | c :: rest =>
        if low ≤ c && c ≤ high then continuation index more 2 rest
        else .error (.invalid 1 index)

/-- The first fault at or after `index`, looking at no more than `fuel` sequences. -/
def faultFrom : Nat → Nat → Bytes → Option Utf8Error
  | 0, _, _ => none
  | _, _, [] => none
  | fuel + 1, index, bytes =>
    match sequence index bytes with
    | .error e => some e
    | .ok rest => faultFrom fuel (index + (bytes.length - rest.length)) rest

/-- The first fault of a byte string; a sequence takes at least one octet, so there are no more
sequences than octets. -/
def fault (bytes : Bytes) : Option Utf8Error := faultFrom bytes.length 0 bytes

end Utf8

/-- Reads octets as text. -/
def ofUtf8 (bytes : Bytes) : Except Utf8Error String :=
  match String.fromUTF8? ⟨bytes.toArray⟩ with
  | some s => .ok s
  | none => .error ((Utf8.fault bytes).getD (.incomplete bytes.length))

def ofUtf8? (bytes : Bytes) : Option String := String.fromUTF8? ⟨bytes.toArray⟩

end Text

end FunctionWorker
