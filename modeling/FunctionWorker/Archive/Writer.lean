/-
Writing an archive. The content that does not lie in place comes first, depth first in the order
of the fields: the octets of long texts and byte strings, and the items of a list behind the
content of those items. The root ends the archive. What lies in place depends on where it lies,
because distances are counted from there, so a part is written as its content and a function from
its position to its octets.
-/
import FunctionWorker.Archive.Layout

namespace FunctionWorker.Archive

/-- A part of an archive: its content elsewhere, and what lies in place at a position. -/
structure Part where
  content : Bytes
  inPlaceAt : Nat → Bytes

def padding (n : Nat) : Bytes := List.replicate n 0

/-- Octets up to a length. -/
def padTo (length : Nat) (b : Bytes) : Bytes := b ++ padding (length - b.length)

namespace Part

/-- What has no content elsewhere. -/
def here (b : Bytes) : Part := ⟨[], fun _ => b⟩

def text (pos : Nat) (octets : Bytes) : Part :=
  if octets.length ≤ inPlace then
    here (octets ++ List.replicate (inPlace - octets.length) 0xff)
  else
    ⟨octets, fun here =>
      littleEndian 4 (lengthWord octets.length) ++ littleEndian 4 (distanceWord (pos - here))⟩

/-- A count and a distance to items that start at `start`. -/
def pointer (start count here : Nat) : Bytes :=
  littleEndian 4 (distanceWord (start - here)) ++ littleEndian 4 count

def bytes (pos : Nat) (b : Bytes) : Part := ⟨b, pointer pos b.length⟩

/-- Octets of items that lie one after another from a position on. -/
def consecutive (size : Nat) (start : Nat) : List Part → Bytes
  | [] => []
  | p :: ps => padTo size (p.inPlaceAt start) ++ consecutive size (start + size) ps

end Part

/-- What a field adds to the octets in place: zeros up to its alignment, and its own octets. `base`
is the position of the whole and `offset` the length so far. -/
def placeField (base offset : Nat) (l : Layout) (p : Part) : Bytes :=
  let start := alignUp offset l.alignment
  padding (start - offset) ++ padTo l.size (p.inPlaceAt (base + start))

/-- The octets in place of fields that lie together. -/
def placeFields (base : Nat) : Nat → List (Layout × Part) → Bytes
  | _, [] => []
  | offset, (l, p) :: rest =>
    placeField base offset l p ++ placeFields base (alignUp offset l.alignment + l.size) rest

/-- The content of parts, one after another. -/
def contents (parts : List Part) : Bytes := (parts.map (·.content)).flatten

mutual

/-- Writes a node whose content may start at position `pos`. -/
def part (pos : Nat) : Layout → Node → Part
  | .word size, .word n => .here (littleEndian size n)
  | .bool, .bool b => .here [if b then 1 else 0]
  | .text, .text s => .text pos (Text.utf8 s)
  | .bytes, .bytes b => .bytes pos b
  | .list item, .list nodes =>
    let parts := partsOfItems pos item nodes
    let inner := contents parts
    let start := alignUp (pos + inner.length) item.alignment
    ⟨inner ++ padding (start - (pos + inner.length)) ++ Part.consecutive item.size start parts,
      Part.pointer start nodes.length⟩
  | .record fields, .record nodes =>
    let parts := partsOfFields pos fields nodes
    ⟨contents parts, fun base => padTo (Layout.record fields).size
      (placeFields base 0 (fields.zip parts))⟩
  | .choice variants, .choice tag nodes =>
    let fields := variants.getD tag []
    let parts := partsOfFields pos fields nodes
    ⟨contents parts, fun base => padTo (Layout.choice variants).size
      (UInt8.ofNat tag :: placeFields base 1 (fields.zip parts))⟩
  | _, _ => .here []

def partsOfItems (pos : Nat) (item : Layout) : List Node → List Part
  | [] => []
  | n :: ns =>
    let p := part pos item n
    p :: partsOfItems (pos + p.content.length) item ns

def partsOfFields (pos : Nat) : List Layout → List Node → List Part
  | l :: ls, n :: ns =>
    let p := part pos l n
    p :: partsOfFields (pos + p.content.length) ls ns
  | _, _ => []

end

/-- Writes a whole archive. -/
def write (l : Layout) (n : Node) : Bytes :=
  let p := part 0 l n
  let root := alignUp p.content.length l.alignment
  p.content ++ padding (root - p.content.length) ++ padTo l.size (p.inPlaceAt root)

end FunctionWorker.Archive
