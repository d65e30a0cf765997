/-
How typed data lies in a byte archive. A layout gives every type a size and an alignment: words,
texts and lists have fixed sizes, a record places its fields one after another, each at the next
multiple of its alignment, and a choice is a tag followed by the fields of the variant, as large
as its largest variant. Texts of more than eight octets, byte strings and lists hold only the
distance to their content, which lies elsewhere in the archive.
-/
import FunctionWorker.Text.Utf8

namespace FunctionWorker.Archive

inductive Layout where
  /-- An unsigned number of so many octets, least significant first. -/
  | word (size : Nat)
  | bool
  | text
  | bytes
  | list (item : Layout)
  | record (fields : List Layout)
  | choice (variants : List (List Layout))
deriving Inhabited, Repr

/-- Data in the shape of a layout. -/
inductive Node where
  | word (n : Nat)
  | bool (b : Bool)
  | text (s : String)
  | bytes (b : Bytes)
  | list (items : List Node)
  | record (fields : List Node)
  | choice (tag : Nat) (fields : List Node)
deriving Inhabited, Repr

/-- The next multiple of an alignment. -/
def alignUp (n alignment : Nat) : Nat := (n + alignment - 1) / alignment * alignment

namespace Layout

mutual

def alignment : Layout → Nat
  | .word size => size
  | .bool => 1
  | .text => 4
  | .bytes => 4
  | .list _ => 4
  | .record fields => alignmentOfFields fields
  | .choice variants => alignmentOfVariants variants

/-- The alignment of fields that lie together. -/
def alignmentOfFields : List Layout → Nat
  | [] => 1
  | l :: ls => max (alignment l) (alignmentOfFields ls)

def alignmentOfVariants : List (List Layout) → Nat
  | [] => 1
  | v :: vs => max (alignmentOfFields v) (alignmentOfVariants vs)

end

mutual

def size : Layout → Nat
  | .word size => size
  | .bool => 1
  | .text => 8
  | .bytes => 8
  | .list _ => 8
  | .record fields => alignUp (endOfFields 0 fields) (alignmentOfFields fields)
  | .choice variants => alignUp (endOfVariants variants) (alignmentOfVariants variants)

/-- The end of fields of which the first may start at `offset`. -/
def endOfFields (offset : Nat) : List Layout → Nat
  | [] => offset
  | l :: ls => endOfFields (alignUp offset (alignment l) + size l) ls

/-- The end of the longest variant; its fields follow the tag. -/
def endOfVariants : List (List Layout) → Nat
  | [] => 1
  | v :: vs => max (endOfFields 1 v) (endOfVariants vs)

end

end Layout

/-- So many octets of a number, least significant first. -/
def littleEndian : Nat → Nat → Bytes
  | 0, _ => []
  | width + 1, n => UInt8.ofNat (n % 256) :: littleEndian width (n / 256)

/-- The number that octets stand for, least significant first. -/
def ofLittleEndian : Bytes → Nat
  | [] => 0
  | b :: bs => b.toNat + 256 * ofLittleEndian bs

/-- A distance as an unsigned word of four octets, negative ones in two's complement. -/
def distanceWord (d : Int) : Nat := (d % 0x100000000).toNat

/-- The distance that a word of four octets stands for. -/
def distanceOfWord (w : Nat) : Int := if w < 0x80000000 then w else (w : Int) - 0x100000000

/-- The longest text that is held in place. -/
def inPlace : Nat := 8

/-- The word that marks a text elsewhere in the archive and gives its length: the top bits of its
first octet are `10`, which no text in place starts with. -/
def lengthWord (length : Nat) : Nat := length % 64 + 128 + length / 64 * 256

def lengthOfWord (w : Nat) : Nat := w % 64 + w / 256 * 64

end FunctionWorker.Archive
