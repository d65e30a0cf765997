/-
What the numbers, strings and objects of a JSON text stand for, as each kind of reader asks for
them: free-form values, integers within bounds, doubles, texts, lists, and records of named
fields, which may also be written as the list of their fields.
-/
import FunctionWorker.Double.Rounding
import FunctionWorker.Integer
import FunctionWorker.Json.Basic
import FunctionWorker.Json.Syntax

namespace FunctionWorker.Json

/-! ## Strings -/

namespace Escaped

def hexValue (b : UInt8) : Nat :=
  if b ≤ 0x39 then b.toNat - 0x30 else if b ≤ 0x46 then b.toNat - 0x37 else b.toNat - 0x57

def unitValue (a b c d : UInt8) : Nat :=
  ((hexValue a * 16 + hexValue b) * 16 + hexValue c) * 16 + hexValue d

def shortEscape (b : UInt8) : UInt8 :=
  if b = Raw.octet 'b' then 0x08
  else if b = Raw.octet 'f' then 0x0c
  else if b = Raw.octet 'n' then 0x0a
  else if b = Raw.octet 'r' then 0x0d
  else if b = Raw.octet 't' then 0x09
  else b

/-- The octets that an escaped string stands for. The two halves of a surrogate pair must stand
together. -/
def octets : Bytes → Option Bytes
  | [] => some []
  | b :: rest =>
    if b = Raw.octet '\\' then
      match rest with
      | [] => none
      | e :: rest =>
        if e = Raw.octet 'u' then
          match rest with
          | h₁ :: h₂ :: h₃ :: h₄ :: rest =>
            let unit := unitValue h₁ h₂ h₃ h₄
            if 0xdc00 ≤ unit ∧ unit ≤ 0xdfff then none
            else if 0xd800 ≤ unit ∧ unit ≤ 0xdbff then
              match rest with
              | s :: u :: l₁ :: l₂ :: l₃ :: l₄ :: rest =>
                let second := unitValue l₁ l₂ l₃ l₄
                if s = Raw.octet '\\' ∧ u = Raw.octet 'u' ∧ 0xdc00 ≤ second ∧ second ≤ 0xdfff then
                  let point := 0x10000 + (unit - 0xd800) * 0x400 + (second - 0xdc00)
                  (octets rest).map (String.utf8EncodeChar (Char.ofNat point) ++ ·)
                else none
              | _ => none
            else (octets rest).map (String.utf8EncodeChar (Char.ofNat unit) ++ ·)
          | _ => none
        else (octets rest).map (shortEscape e :: ·)
    else (octets rest).map (b :: ·)

/-- The text that an escaped string stands for. -/
def text? (escaped : Bytes) : Option String := (octets escaped).bind Text.ofUtf8?

end Escaped

/-! ## Numbers -/

namespace RawNumber

def digit (b : UInt8) : Nat := b.toNat - 0x30

/-- What a number stands for. -/
inductive Value where
  | int (i : Int)
  | double (d : Double)

/-- Digits that fit into a significand of 64 bits, and how many more there are. -/
def significand : Nat → Bytes → Nat × Nat
  | n, [] => (n, 0)
  | n, d :: ds =>
    if 10 * n + digit d < 0x10000000000000000 then significand (10 * n + digit d) ds
    else (n, (d :: ds).length)

/-- Scales a double by powers of ten that are themselves doubles: a product for a positive power,
quotients for a negative one. `none` beyond the largest double. -/
def scale : Nat → Double → Int → Option Double
  | 0, d, _ => some d
  | fuel + 1, d, e =>
    if e.natAbs ≤ 308 then
      let power := Double.ofDecimal false (Nat.pow 10 e.natAbs) 0
      if 0 ≤ e then
        let r := Double.mul d power
        if r.isFinite then some r else none
      else some (Double.div d power)
    else if d.isZero then some d
    else if 0 ≤ e then none
    else scale fuel (Double.div d (Double.ofDecimal false (Nat.pow 10 308) 0)) (e + 308)

/-- The double of a significand and a power of ten. It takes two divisions to bring any
significand to zero. -/
def ofParts (negative : Bool) (n : Nat) (e : Int) : Option Double :=
  (scale 8 (Double.ofInt n) e).map fun d => if negative then Double.neg d else d

/-- The digits of an exponent as a number, unless they exceed 31 bits. -/
def exponentDigits : Nat → Bytes → Option Nat
  | n, [] => some n
  | n, d :: ds => if 10 * n + digit d < 0x80000000 then exponentDigits (10 * n + digit d) ds else none

def clamp32 (i : Int) : Int := max (-0x80000000) (min 0x7fffffff i)

/-- The double of a number that is written with an exponent, or with none. -/
def withExponent (negative : Bool) (n : Nat) (e : Int) :
    Option (Bool × Bytes) → Option Double
  | none => ofParts negative n e
  | some (minus, ds) =>
    match exponentDigits 0 ds with
    | some x => ofParts negative n (clamp32 (if minus then e - x else e + x))
    | none =>
      if n ≠ 0 ∧ minus = false then none
      else some (Double.make negative 0)

/-- What a number stands for. Whole numbers of 64 bits are exact, except that minus zero is a
double; every other number is a double, made from a significand of the leading digits and a power
of ten. `none` beyond the largest double. -/
def value? (r : RawNumber) : Option Value :=
  let (n, dropped) := significand 0 r.whole
  match dropped, r.fraction, r.exponent with
  | 0, none, none =>
    if r.negative = false then some (.int n)
    else if 0 < n ∧ n ≤ 0x8000000000000000 then some (.int (-n))
    else some (.double (Double.neg (Double.ofInt n)))
  | _, none, exponent => (withExponent r.negative n dropped exponent).map .double
  | _, some ds, exponent =>
    let (m, rest) := significand n ds
    (withExponent r.negative m (dropped - (ds.length - rest : Int)) exponent).map .double

end RawNumber

/-! ## Free-form values -/

/-- How deeply arrays and objects may be nested. -/
def maxDepth : Nat := 127

namespace Raw

mutual

/-- The value of a tree with at most `depth` nested arrays and objects. -/
def toJson : Nat → Raw → Option Json
  | _, .null => some .null
  | _, .bool b => some (.bool b)
  | _, .number n =>
    match n.value? with
    | some (.int i) => some (.int i)
    | some (.double d) => some (.double d)
    | none => none
  | _, .text s => (Escaped.text? s).map .text
  | 0, .array _ => none
  | depth + 1, .array items => (toItems depth items).map .array
  | 0, .object _ => none
  | depth + 1, .object members => (toMembers depth members).map Json.ofMembers

def toItems : Nat → List Raw → Option (List Json)
  | _, [] => some []
  | depth, r :: rs =>
    match toJson depth r with
    | none => none
    | some j => (toItems depth rs).map (j :: ·)

def toMembers : Nat → List (Bytes × Raw) → Option (List (String × Json))
  | _, [] => some []
  | depth, (k, r) :: ms =>
    match Escaped.text? k with
    | none => none
    | some key =>
      match toJson depth r with
      | none => none
      | some j => (toMembers depth ms).map ((key, j) :: ·)

end

/-! ## Readers -/

def text? : Raw → Option String
  | .text s => Escaped.text? s
  | _ => none

def int? (b : Integer.Bounds) : Raw → Option Int
  | .number n =>
    match n.value? with
    | some (.int i) => if b.holds i then some i else none
    | _ => none
  | _ => none

def double? : Raw → Option Double
  | .number n =>
    match n.value? with
    | some (.int i) => some (Double.ofInt i)
    | some (.double d) => some d
    | none => none
  | _ => none

def list? {α : Type} (item : Raw → Option α) : Raw → Option (List α)
  | .array items => items.mapM item
  | _ => none

/-- `null` stands for an absent value. -/
def optional? {α : Type} (item : Raw → Option α) : Raw → Option (Option α)
  | .null => some none
  | r => (item r).map some

/-- A field of a record as the text gives it. -/
inductive Field where
  | given (r : Raw)
  /-- An object without the key. -/
  | noKey
  /-- A list that ends before the field. -/
  | noItem

namespace Field

/-- A field that must be there. -/
def required {α : Type} (read : Raw → Option α) : Field → Option α
  | .given r => read r
  | _ => none

/-- A field with a value of its own when it is left out. -/
def defaulted {α : Type} (read : Raw → Option α) (value : α) : Field → Option α
  | .given r => read r
  | _ => some value

/-- A field whose key may be left out, though a list must reach it. -/
def nullable {α : Type} (read : Raw → Option α) : Field → Option (Option α)
  | .given r => optional? read r
  | .noKey => some none
  | .noItem => none

end Field

/-- Adds a member to the fields found so far; a known key may come once. -/
def addMember (names : List String) (found : List (String × Raw)) (m : Bytes × Raw) :
    Option (List (String × Raw)) :=
  match Escaped.text? m.1 with
  | none => none
  | some key =>
    if names.contains key then
      if found.any (·.1 == key) then none else some (found ++ [(key, m.2)])
    else some found

/-- The named fields of an object, whose other members are ignored, or of the list of the fields
in order. -/
def fields? (names : List String) : Raw → Option (List Field)
  | .object members =>
    (members.foldlM (addMember names) []).map fun found =>
      names.map fun n =>
        match found.lookup n with
        | some r => .given r
        | none => .noKey
  | .array items =>
    if names.length < items.length then none
    else
      some (items.map .given ++ List.replicate (names.length - items.length) .noItem)
  | _ => none

end Raw

/-- Reads a text as a free-form value. -/
def ofBytes (bytes : Bytes) : Option Json := (Raw.ofBytes bytes).bind (Raw.toJson maxDepth)

def ofText (s : String) : Option Json := ofBytes (Text.utf8 s)

end FunctionWorker.Json
