/-
Formats: a layout with the way a type is put into nodes of it and taken back. The formats of basic
types, lists and options; those of the messages are put together from them.
-/
import FunctionWorker.Archive.Reader
import FunctionWorker.Archive.Writer
import FunctionWorker.Double.Basic

namespace FunctionWorker.Archive

structure Format (α : Type) where
  layout : Layout
  toNode : α → Node
  ofNode? : Node → Option α

namespace Format

def text : Format String where
  layout := .text
  toNode := .text
  ofNode?
    | .text s => some s
    | _ => none

def bytes : Format Bytes where
  layout := .bytes
  toNode := .bytes
  ofNode?
    | .bytes b => some b
    | _ => none

def bool : Format Bool where
  layout := .bool
  toNode := .bool
  ofNode?
    | .bool b => some b
    | _ => none

def u16 : Format UInt16 where
  layout := .word 2
  toNode n := .word n.toNat
  ofNode?
    | .word n => some (UInt16.ofNat n)
    | _ => none

def u64 : Format UInt64 where
  layout := .word 8
  toNode n := .word n.toNat
  ofNode?
    | .word n => some (UInt64.ofNat n)
    | _ => none

def i32 : Format Int32 where
  layout := .word 4
  toNode n := .word n.toUInt32.toNat
  ofNode?
    | .word n => some (UInt32.ofNat n).toInt32
    | _ => none

def i64 : Format Int64 where
  layout := .word 8
  toNode n := .word n.toUInt64.toNat
  ofNode?
    | .word n => some (UInt64.ofNat n).toInt64
    | _ => none

def double : Format Double where
  layout := .word 8
  toNode d := .word d.bits.toNat
  ofNode?
    | .word n => some ⟨UInt64.ofNat n⟩
    | _ => none

def list {α : Type} (f : Format α) : Format (List α) where
  layout := .list f.layout
  toNode xs := .list (xs.map f.toNode)
  ofNode?
    | .list ns => ns.mapM f.ofNode?
    | _ => none

def option {α : Type} (f : Format α) : Format (Option α) where
  layout := .choice [[], [f.layout]]
  toNode
    | none => .choice 0 []
    | some x => .choice 1 [f.toNode x]
  ofNode?
    | .choice 0 [] => some none
    | .choice 1 [n] => (f.ofNode? n).map some
    | _ => none

def pair {α β : Type} (f : Format α) (g : Format β) : Format (α × β) where
  layout := .record [f.layout, g.layout]
  toNode x := .record [f.toNode x.1, g.toNode x.2]
  ofNode?
    | .record [a, b] => do return (← f.ofNode? a, ← g.ofNode? b)
    | _ => none

/-- Lists of named texts: headers, capabilities, attributes. -/
def pairs : Format (List (String × String)) := list (pair text text)

/-- Writes a value as an archive of its own. -/
def write {α : Type} (f : Format α) (x : α) : Bytes := Archive.write f.layout (f.toNode x)

/-- Reads an archive as a value. -/
def read {α : Type} (f : Format α) (archive : Bytes) : Option α :=
  (Archive.read f.layout archive).bind f.ofNode?

end Format

end FunctionWorker.Archive
