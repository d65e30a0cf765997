/-
Reading an archive that anybody may have written. The reader keeps the range of octets that may
still be pointed to. A block that is pointed to must lie within the range, at a multiple of its
alignment; what it points to itself must lie before it, and what comes after it in the order of
the fields must lie behind it. So no octet is used for two values.
-/
import FunctionWorker.Archive.Layout

namespace FunctionWorker.Archive

/-- The octets `first`, …, `last - 1` may be pointed to. -/
structure Range where
  first : Nat
  last : Nat

namespace Range

/-- Whether a block may be entered. -/
def admits (r : Range) (start : Int) (length alignment : Nat) : Bool :=
  decide ((r.first : Int) ≤ start) && decide (start + length ≤ (r.last : Int))
    && start.toNat % alignment == 0

/-- What a block itself may point to. -/
def before (r : Range) (start : Nat) : Range := ⟨r.first, start⟩

/-- What may be pointed to after a block. -/
def behind (r : Range) (start length : Nat) : Range := ⟨start + length, r.last⟩

end Range

def slice (archive : Bytes) (start length : Nat) : Bytes := (archive.drop start).take length

/-- The number in so many octets at a position. -/
def wordAt (archive : Bytes) (pos size : Nat) : Option Nat :=
  let b := slice archive pos size
  if b.length = size then some (ofLittleEndian b) else none

/-- Reads something at a position, with the range before and after. -/
abbrev Read (α : Type) := Nat → Range → Option (α × Range)

/-- Reads so many items that lie one after another. -/
def readItems (item : Read Node) (size : Nat) : Nat → Nat → Range → Option (List Node × Range)
  | 0, _, r => some ([], r)
  | count + 1, pos, r =>
    match item pos r with
    | none => none
    | some (n, r) =>
      match readItems item size count (pos + size) r with
      | none => none
      | some (ns, r) => some (n :: ns, r)

/-- Enters the block that a distance and a count point to. -/
def enter (archive : Bytes) (pos itemSize alignment : Nat) (r : Range) : Option (Nat × Nat) :=
  match wordAt archive pos 4, wordAt archive (pos + 4) 4 with
  | some d, some count =>
    let start := (pos : Int) + distanceOfWord d
    if r.admits start (count * itemSize) alignment then some (start.toNat, count) else none
  | _, _ => none

def readText (archive : Bytes) : Read String := fun pos r =>
  let b := slice archive pos 8
  if b.length ≠ 8 then none
  else if (b.headD 0) &&& 0xc0 ≠ 0x80 then
    (Text.ofUtf8? (b.takeWhile (· ≠ 0xff))).map fun s => (s, r)
  else
    let length := lengthOfWord (ofLittleEndian (b.take 4))
    let start := (pos : Int) + distanceOfWord (ofLittleEndian (b.drop 4))
    if length ≤ inPlace then none
    else if r.admits start length 1 then
      (Text.ofUtf8? (slice archive start.toNat length)).map fun s =>
        (s, r.behind start.toNat length)
    else none

def readBytes (archive : Bytes) : Read Bytes := fun pos r =>
  match enter archive pos 1 1 r with
  | none => none
  | some (start, count) => some (slice archive start count, r.behind start count)

mutual

/-- Reads a node of a layout. -/
def readNode (archive : Bytes) : Layout → Read Node
  | .word size, pos, r => (wordAt archive pos size).map fun n => (.word n, r)
  | .bool, pos, r =>
    match wordAt archive pos 1 with
    | some 0 => some (.bool false, r)
    | some 1 => some (.bool true, r)
    | _ => none
  | .text, pos, r => (readText archive pos r).map fun (s, r) => (.text s, r)
  | .bytes, pos, r => (readBytes archive pos r).map fun (b, r) => (.bytes b, r)
  | .list item, pos, r =>
    match enter archive pos item.size item.alignment r with
    | none => none
    | some (start, count) =>
      (readItems (readNode archive item) item.size count start (r.before start)).map
        fun (ns, _) => (.list ns, r.behind start (count * item.size))
  | .record fields, pos, r => (readFields archive fields pos 0 r).map fun (ns, r) => (.record ns, r)
  | .choice variants, pos, r =>
    match wordAt archive pos 1 with
    | none => none
    | some tag =>
      (readVariant archive variants tag pos r).map fun (ns, r) => (.choice tag ns, r)

/-- Reads fields that lie together; `pos` is the position of the whole. -/
def readFields (archive : Bytes) : List Layout → Nat → Nat → Range → Option (List Node × Range)
  | [], _, _, r => some ([], r)
  | l :: ls, pos, offset, r =>
    let start := alignUp offset l.alignment
    match readNode archive l (pos + start) r with
    | none => none
    | some (n, r) =>
      match readFields archive ls pos (start + l.size) r with
      | none => none
      | some (ns, r) => some (n :: ns, r)

/-- Reads the fields of the variant with this tag. -/
def readVariant (archive : Bytes) : List (List Layout) → Nat → Nat → Range →
    Option (List Node × Range)
  | [], _, _, _ => none
  | v :: _, 0, pos, r => readFields archive v pos 1 r
  | _ :: vs, tag + 1, pos, r => readVariant archive vs tag pos r

end

/-- Reads a whole archive: its root is the block at its end. -/
def read (l : Layout) (archive : Bytes) : Option Node :=
  let whole : Range := ⟨0, archive.length⟩
  let start := (archive.length : Int) - l.size
  if whole.admits start l.size l.alignment then
    (readNode archive l start.toNat (whole.before start.toNat)).map (·.1)
  else none

end FunctionWorker.Archive
