/-
Decimal integers in text: an optional sign and digits, within the bounds of a type. Digits are
looked at from the left, and the first that is no digit or takes the number out of its bounds
decides the error.
-/

namespace FunctionWorker.Integer

/-- Why a text is no integer of a type. -/
inductive TextError where
  | empty
  | invalidDigit
  | tooLarge
  | tooSmall
deriving DecidableEq, Repr

def TextError.message : TextError → String
  | .empty => "cannot parse integer from empty string"
  | .invalidDigit => "invalid digit found in string"
  | .tooLarge => "number too large to fit in target type"
  | .tooSmall => "number too small to fit in target type"

/-- The least and the greatest number of a type. -/
structure Bounds where
  least : Int
  greatest : Int

def Bounds.i32 : Bounds := ⟨-0x80000000, 0x7fffffff⟩
def Bounds.i64 : Bounds := ⟨-0x8000000000000000, 0x7fffffffffffffff⟩
def Bounds.u8 : Bounds := ⟨0, 0xff⟩
def Bounds.u16 : Bounds := ⟨0, 0xffff⟩
def Bounds.u32 : Bounds := ⟨0, 0xffffffff⟩
def Bounds.u64 : Bounds := ⟨0, 0xffffffffffffffff⟩

def Bounds.holds (b : Bounds) (i : Int) : Bool := b.least ≤ i && i ≤ b.greatest

/-- Reads on with digits, the number so far being `acc`. -/
def digits (b : Bounds) (negative : Bool) : Int → List Char → Except TextError Int
  | acc, [] => .ok acc
  | acc, c :: cs =>
    if c.isDigit then
      let d : Int := c.toNat - 48
      let acc := if negative then 10 * acc - d else 10 * acc + d
      if b.greatest < acc then .error .tooLarge
      else if acc < b.least then .error .tooSmall
      else digits b negative acc cs
    else .error .invalidDigit

def ofList (b : Bounds) : List Char → Except TextError Int
  | [] => .error .empty
  | '+' :: [] => .error .invalidDigit
  | '-' :: [] => .error .invalidDigit
  | '+' :: c :: cs => digits b false 0 (c :: cs)
  | '-' :: c :: cs =>
    if b.least < 0 then digits b true 0 (c :: cs) else .error .invalidDigit
  | cs => digits b false 0 cs

/-- Reads a text as an integer within bounds. -/
def ofText (b : Bounds) (s : String) : Except TextError Int := ofList b s.toList

end FunctionWorker.Integer
