/-
Lenient access to JSON values: what is missing or of another kind stands for the empty value of
the kind asked for. Integers may be given as numbers or as decimal texts, octets as hexadecimal
digits, and doubles by their bits.
-/
import FunctionWorker.Integer
import FunctionWorker.Json.Basic
import FunctionWorker.Text.Hex

namespace FunctionWorker.Json

/-! ## Reading -/

/-- The member of an object under a key. -/
def get (j : Json) (key : String) : Json :=
  match j with
  | .object members => (members.lookup key).getD .null
  | _ => .null

def isNull : Json → Bool
  | .null => true
  | _ => false

def has (j : Json) (key : String) : Bool := !(j.get key).isNull

def asText : Json → String
  | .text s => s
  | _ => ""

def asBool : Json → Bool
  | .bool b => b
  | _ => false

def asInt : Json → Int
  | .int i => i
  | .text s =>
    match Integer.ofText ⟨-0x10000000000000000, 0x10000000000000000⟩ s with
    | .ok i => i
    | .error _ => 0
  | _ => 0

def asNat (j : Json) : Nat := j.asInt.toNat

def asBytes (j : Json) : Bytes := Text.unhex j.asText

def asDouble (j : Json) : Double :=
  if j.asText = "nan" then Double.nan
  else ⟨UInt64.ofNat (j.asBytes.foldl (fun n o => 256 * n + o.toNat) 0)⟩

def asList : Json → List Json
  | .array items => items
  | _ => []

/-- A value that may be absent. -/
def asOption {α : Type} (read : Json → α) : Json → Option α
  | .null => none
  | j => some (read j)

/-- The first two items of a list. -/
def asPair (j : Json) : Json × Json :=
  match j.asList with
  | a :: b :: _ => (a, b)
  | [a] => (a, .null)
  | [] => (.null, .null)

def getText (j : Json) (key : String) : String := (j.get key).asText
def getBool (j : Json) (key : String) : Bool := (j.get key).asBool
def getInt (j : Json) (key : String) : Int := (j.get key).asInt
def getNat (j : Json) (key : String) : Nat := (j.get key).asNat
def getBytes (j : Json) (key : String) : Bytes := (j.get key).asBytes
def getList (j : Json) (key : String) : List Json := (j.get key).asList
def getTexts (j : Json) (key : String) : List String := (j.getList key).map asText

/-- Entries as a list of pairs. -/
def asEntries {α : Type} (read : Json → α) (j : Json) : List (String × α) :=
  j.asList.map fun p => (p.asPair.1.asText, read p.asPair.2)

def getEntries (j : Json) (key : String) : List (String × String) := (j.get key).asEntries asText

/-! ## Writing -/

def ofOption {α : Type} (write : α → Json) : Option α → Json
  | none => .null
  | some a => write a

def ofList {α : Type} (write : α → Json) (items : List α) : Json := .array (items.map write)

def ofTexts (items : List String) : Json := ofList .text items

/-- A decimal text. -/
def ofDecimal (i : Int) : Json := .text (toString i)

def ofOctets (b : Bytes) : Json := .text (Text.hex b)

/-- The bits of a double; all NaNs are written alike. -/
def ofDouble (d : Double) : Json :=
  if d.isNaN then .text "nan"
  else .text (Text.hex ((List.range 8).reverse.map fun k =>
    UInt8.ofNat (d.bits.toNat / Nat.pow 256 k % 256)))

def ofPair (a b : Json) : Json := .array [a, b]

def ofEntries {α : Type} (write : α → Json) (entries : List (String × α)) : Json :=
  ofList (fun e => ofPair (.text e.1) (write e.2)) entries

end FunctionWorker.Json
