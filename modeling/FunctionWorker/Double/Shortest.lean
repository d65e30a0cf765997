/-
The fewest decimal digits that read back as a double, and of these the nearest to it. For each
number of digits from one to seventeen the two neighbours of the double on that decimal grid are
read back; the first grid on which one of them gives the double wins. Should none do so, the exact
decimal expansion is taken, which always reads back.
-/
import FunctionWorker.Double.Rounding

namespace FunctionWorker.Double

/-- A decimal numeral `digits * 10 ^ exponent`. -/
structure Numeral where
  digits : Nat
  exponent : Int
deriving DecidableEq, Repr

def Numeral.nearest (n : Numeral) : Nat := nearestDecimal n.digits n.exponent

/-- The place of the leading digit: `10 ^ (place - 1) ≤ x < 10 ^ place` for the finite positive
double `x` with this magnitude. -/
def place (magnitude : Nat) : Int :=
  let u := units magnitude
  if Nat.pow 2 1074 ≤ u then digitCount (u / Nat.pow 2 1074)
  else
    let d := digitCount (Nat.pow 2 1074 / u)
    if Nat.pow 2 1074 ≤ u * Nat.pow 10 (d - 1) then 2 - (d : Int) else 1 - (d : Int)

/-- The neighbour of the double on the grid of `10 ^ exponent` that reads back as it. -/
def onGrid (magnitude : Nat) (exponent : Int) : Option Numeral :=
  let num := units magnitude * (if 0 ≤ exponent then 1 else Nat.pow 10 (-exponent).toNat)
  let den := Nat.pow 2 1074 * (if 0 ≤ exponent then Nat.pow 10 exponent.toNat else 1)
  let below : Numeral := ⟨num / den, exponent⟩
  let above : Numeral := ⟨num / den + 1, exponent⟩
  let aboveFirst : Bool := decide (below.digits < roundDiv num den)
  ((if aboveFirst then [above, below] else [below, above]).find?
    (fun n => n.nearest == magnitude))

/-- The exact decimal expansion. -/
def expansion (magnitude : Nat) : Numeral := ⟨units magnitude * Nat.pow 5 1074, -1074⟩

/-- A numeral without zeros at its end; `fuel` bounds how many are dropped. -/
def Numeral.trimmed : Nat → Numeral → Numeral
  | 0, n => n
  | fuel + 1, n =>
    if n.digits ≠ 0 ∧ n.digits % 10 = 0 then Numeral.trimmed fuel ⟨n.digits / 10, n.exponent + 1⟩
    else n

/-- The shortest numeral of a finite positive double. -/
def shortest (magnitude : Nat) : Numeral :=
  let found := (List.range 17).findSome? fun n => onGrid magnitude (place magnitude - (n + 1 : Nat))
  let numeral := found.getD (expansion magnitude)
  Numeral.trimmed (digitCount numeral.digits) numeral

end FunctionWorker.Double
