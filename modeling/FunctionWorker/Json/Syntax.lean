/-
The grammar of JSON texts, read from octets into a tree that still holds its numbers and strings
as written. What a number or a string stands for is decided when somebody asks for it, so a member
that nobody asks for may hold a number out of range or half a surrogate pair.
-/
import FunctionWorker.Text.Utf8

namespace FunctionWorker.Json

/-- A number as written: its digits before and after the point, and the digits of its exponent
with their sign. -/
structure RawNumber where
  negative : Bool
  whole : Bytes
  fraction : Option Bytes
  exponent : Option (Bool × Bytes)

/-- A JSON text as a tree; strings are the octets between their quotes. -/
inductive Raw where
  | null
  | bool (b : Bool)
  | number (n : RawNumber)
  | text (octets : Bytes)
  | array (items : List Raw)
  | object (members : List (Bytes × Raw))

namespace Raw

def octet (c : Char) : UInt8 := UInt8.ofNat c.toNat

def isSpace (b : UInt8) : Bool := b == 0x20 || b == 0x0a || b == 0x0d || b == 0x09

def isDigit (b : UInt8) : Bool := 0x30 ≤ b && b ≤ 0x39

def isHex (b : UInt8) : Bool :=
  isDigit b || (0x41 ≤ b && b ≤ 0x46) || (0x61 ≤ b && b ≤ 0x66)

def skip (bytes : Bytes) : Bytes := bytes.dropWhile isSpace

/-! ## Strings -/

/-- The octets that may follow a backslash on their own. -/
def isShortEscape (b : UInt8) : Bool :=
  b == octet '"' || b == octet '\\' || b == octet '/' || b == octet 'b' || b == octet 'f'
    || b == octet 'n' || b == octet 'r' || b == octet 't'

/-- Reads a string whose opening quote is behind, and gives the octets up to its closing quote. -/
def stringBody : Bytes → Option (Bytes × Bytes)
  | [] => none
  | b :: rest =>
    if b = octet '"' then some ([], rest)
    else if b = octet '\\' then
      match rest with
      | [] => none
      | e :: rest =>
        if isShortEscape e then (stringBody rest).map fun (s, r) => (b :: e :: s, r)
        else if e = octet 'u' then
          match rest with
          | h₁ :: h₂ :: h₃ :: h₄ :: rest =>
            if isHex h₁ && isHex h₂ && isHex h₃ && isHex h₄ then
              (stringBody rest).map fun (s, r) => (b :: e :: h₁ :: h₂ :: h₃ :: h₄ :: s, r)
            else none
          | _ => none
        else none
    else if b < 0x20 then none
    else (stringBody rest).map fun (s, r) => (b :: s, r)

/-! ## Numbers -/

def takeDigits (bytes : Bytes) : Bytes × Bytes :=
  (bytes.takeWhile isDigit, bytes.dropWhile isDigit)

/-- The digits before the point: a single zero, or digits that start with another. -/
def wholePart (bytes : Bytes) : Option (Bytes × Bytes) :=
  match takeDigits bytes with
  | ([], _) => none
  | (d :: ds, rest) => if d = octet '0' ∧ ds ≠ [] then none else some (d :: ds, rest)

/-- A point and the digits after it, if there is one. -/
def fractionPart : Bytes → Option (Option Bytes × Bytes)
  | [] => some (none, [])
  | b :: rest =>
    if b = octet '.' then
      match takeDigits rest with
      | ([], _) => none
      | (ds, rest) => some (some ds, rest)
    else some (none, b :: rest)

/-- The mark of an exponent, its sign and its digits, if there is one. -/
def exponentPart : Bytes → Option (Option (Bool × Bytes) × Bytes)
  | [] => some (none, [])
  | b :: rest =>
    if b = octet 'e' ∨ b = octet 'E' then
      let (minus, rest) :=
        match rest with
        | s :: r =>
          if s = octet '+' then (false, r) else if s = octet '-' then (true, r) else (false, rest)
        | [] => (false, [])
      match takeDigits rest with
      | ([], _) => none
      | (ds, rest) => some (some (minus, ds), rest)
    else some (none, b :: rest)

/-- Reads a number whose sign is behind. -/
def unsigned (negative : Bool) (bytes : Bytes) : Option (Raw × Bytes) := do
  let (whole, rest) ← wholePart bytes
  let (fraction, rest) ← fractionPart rest
  let (exponent, rest) ← exponentPart rest
  return (.number ⟨negative, whole, fraction, exponent⟩, rest)

/-! ## Values -/

/-- The rest after an expected word. -/
def word (w : String) (bytes : Bytes) : Option Bytes :=
  let octets := Text.utf8 w
  if octets.isPrefixOf bytes then some (bytes.drop octets.length) else none

/-- Reads what starts with neither a quote nor a bracket. -/
def scalar (bytes : Bytes) : Option (Raw × Bytes) :=
  match bytes with
  | [] => none
  | b :: rest =>
    if b = octet '-' then unsigned true rest
    else if isDigit b then unsigned false bytes
    else if b = octet 'n' then (word "null" bytes).map fun r => (.null, r)
    else if b = octet 't' then (word "true" bytes).map fun r => (.bool true, r)
    else if b = octet 'f' then (word "false" bytes).map fun r => (.bool false, r)
    else none

mutual

/-- Reads one value; `fuel` bounds the values and separators that are read within. -/
def value : Nat → Bytes → Option (Raw × Bytes)
  | 0, _ => none
  | fuel + 1, bytes =>
    match skip bytes with
    | [] => none
    | b :: rest =>
      if b = octet '"' then (stringBody rest).map fun (s, r) => (.text s, r)
      else if b = octet '[' then
        match skip rest with
        | [] => none
        | c :: more =>
          if c = octet ']' then some (.array [], more)
          else (items fuel (c :: more)).map fun (vs, r) => (.array vs, r)
      else if b = octet '\x7b' then
        match skip rest with
        | [] => none
        | c :: more =>
          if c = octet '\x7d' then some (.object [], more)
          else (members fuel (c :: more)).map fun (ms, r) => (.object ms, r)
      else scalar (b :: rest)

/-- Reads the items of an array, at least one, and its closing bracket. -/
def items : Nat → Bytes → Option (List Raw × Bytes)
  | 0, _ => none
  | fuel + 1, bytes =>
    match value fuel bytes with
    | none => none
    | some (v, rest) =>
      match skip rest with
      | [] => none
      | c :: more =>
        if c = octet ',' then (items fuel more).map fun (vs, r) => (v :: vs, r)
        else if c = octet ']' then some ([v], more)
        else none

/-- Reads the members of an object, at least one, and its closing brace. -/
def members : Nat → Bytes → Option (List (Bytes × Raw) × Bytes)
  | 0, _ => none
  | fuel + 1, bytes =>
    match skip bytes with
    | [] => none
    | q :: rest =>
      if q ≠ octet '"' then none
      else
        match stringBody rest with
        | none => none
        | some (key, rest) =>
          match skip rest with
          | [] => none
          | colon :: rest =>
            if colon ≠ octet ':' then none
            else
              match value fuel rest with
              | none => none
              | some (v, rest) =>
                match skip rest with
                | [] => none
                | c :: more =>
                  if c = octet ',' then (members fuel more).map fun (ms, r) => ((key, v) :: ms, r)
                  else if c = octet '\x7d' then some ([(key, v)], more)
                  else none

end

/-- Reads a whole text: one value and blanks around it. Every value takes an octet of its own, and
so does every separator, hence twice the length bounds the nesting of calls. -/
def ofBytes (bytes : Bytes) : Option Raw :=
  match value (2 * bytes.length + 2) bytes with
  | some (v, rest) => if skip rest = [] then some v else none
  | none => none

end Raw

end FunctionWorker.Json
