/-
64-bit binary floating point by its bits. A double is a sign and a magnitude, the low 63 bits;
magnitudes are ordered as the numbers they stand for, with infinity above the finite ones and the
NaNs above infinity. A finite magnitude stands for a whole number of units, a unit being
`2 ^ (-1074)`, the least positive double.
-/

namespace FunctionWorker

structure Double where
  bits : UInt64
deriving DecidableEq, Inhabited, Repr

namespace Double

/-- The magnitude of infinity; larger magnitudes are NaNs. -/
def infinite : Nat := 0x7ff0000000000000

def negative (d : Double) : Bool := decide (0x8000000000000000 ≤ d.bits.toNat)

def magnitude (d : Double) : Nat := d.bits.toNat % 0x8000000000000000

def make (negative : Bool) (magnitude : Nat) : Double :=
  ⟨UInt64.ofNat (if negative then 0x8000000000000000 + magnitude else magnitude)⟩

def isNaN (d : Double) : Bool := decide (infinite < d.magnitude)

def isFinite (d : Double) : Bool := decide (d.magnitude < infinite)

def isZero (d : Double) : Bool := decide (d.magnitude = 0)

/-- The quiet NaN without payload. -/
def nan : Double := make false (infinite + 0x8000000000000)

def neg (d : Double) : Double := make (!d.negative) d.magnitude

/-- Equality of numbers: a NaN differs from everything and the two zeros are equal. -/
def equal (a b : Double) : Bool :=
  !a.isNaN && !b.isNaN && (a == b || (a.isZero && b.isZero))

/-- The number a finite magnitude stands for, in units of `2 ^ (-1074)`. -/
def units (magnitude : Nat) : Nat :=
  if magnitude < 0x10000000000000 then magnitude
  else (0x10000000000000 + magnitude % 0x10000000000000) * Nat.pow 2 (magnitude / 0x10000000000000 - 1)

end Double

end FunctionWorker
