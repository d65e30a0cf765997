/-
Rounding of fractions and decimal numerals to the nearest double, ties to the even magnitude.
Everything is done in whole numbers: a fraction is counted in units of the least positive double,
the exponent is the number of bits by which the count exceeds 53, and the significand is one
rounded division.
-/
import FunctionWorker.Double.Basic

namespace FunctionWorker.Double

/-- The whole number nearest to `num / den`, a tie going to the even one. -/
def roundDiv (num den : Nat) : Nat :=
  let q := num / den
  let r := num % den
  if 2 * r < den then q
  else if den < 2 * r then q + 1
  else if q % 2 = 0 then q else q + 1

/-- The magnitude nearest to `num / den`; beyond the largest finite double it is infinite. -/
def nearest (num den : Nat) : Nat :=
  let scaled := num * Nat.pow 2 1074
  let shift := (scaled / den).log2 - 52
  min (shift * 0x10000000000000 + roundDiv scaled (den * Nat.pow 2 shift)) infinite

/-- The number of decimal digits of a positive number. -/
def digitCount (n : Nat) : Nat := (Nat.toDigits 10 n).length

/-- The magnitude nearest to `digits * 10 ^ exponent`. Numerals far outside the range of doubles
are recognised by their length, so that no power of ten grows beyond need. -/
def nearestDecimal (digits : Nat) (exponent : Int) : Nat :=
  if digits = 0 then 0
  else
    let size := exponent + digitCount digits
    if 400 < size then infinite
    else if size < -400 then 0
    else if 0 ≤ exponent then nearest (digits * Nat.pow 10 exponent.toNat) 1
    else nearest digits (Nat.pow 10 (-exponent).toNat)

def ofDecimal (negative : Bool) (digits : Nat) (exponent : Int) : Double :=
  make negative (nearestDecimal digits exponent)

def ofInt (i : Int) : Double := make (decide (i < 0)) (nearest i.natAbs 1)

/-- The product of two finite doubles. -/
def mul (a b : Double) : Double :=
  make (a.negative != b.negative) (nearest (units a.magnitude * units b.magnitude) (Nat.pow 2 2148))

/-- The quotient of a finite double by a finite nonzero one. -/
def div (a b : Double) : Double :=
  make (a.negative != b.negative) (nearest (units a.magnitude) (units b.magnitude))

end FunctionWorker.Double
