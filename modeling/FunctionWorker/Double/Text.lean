/-
The texts of doubles. A numeral is written positionally or with an exponent as a style says; the
plain style never uses an exponent, the style of JSON does outside the exponents -5 to 15. Reading
takes an optional sign, digits with an optional point, and an optional exponent, or one of the
names of infinity and NaN in any case.
-/
import FunctionWorker.Double.Shortest
import FunctionWorker.Text.Ascii

namespace FunctionWorker.Double

/-- How a numeral is laid out. -/
structure Style where
  /-- Whether the numeral with this exponent of its leading digit is written without exponent. -/
  positional : Int → Bool
  /-- What follows a whole number. -/
  whole : List Char
  /-- The mark before a positive exponent. -/
  plus : List Char

/-- Without exponent, whole numbers as they are. -/
def plain : Style := ⟨fun _ => true, [], []⟩

/-- Positional for exponents -5 to 15, whole numbers with `.0`, and a signed exponent otherwise. -/
def json : Style := ⟨fun e => -5 ≤ e && e ≤ 15, ['.', '0'], ['+']⟩

def zeros (n : Nat) : List Char := List.replicate n '0'

/-- Lays out a numeral. -/
def Numeral.render (style : Style) (n : Numeral) : List Char :=
  let ds := Nat.toDigits 10 n.digits
  let point := n.exponent + ds.length
  if style.positional (point - 1) then
    if point ≤ 0 then '0' :: '.' :: zeros (-point).toNat ++ ds
    else if 0 ≤ n.exponent then ds ++ zeros n.exponent.toNat ++ style.whole
    else ds.take point.toNat ++ '.' :: ds.drop point.toNat
  else
    let e := point - 1
    let mantissa := if ds.length ≤ 1 then ds else ds.take 1 ++ '.' :: ds.drop 1
    let sign := if e < 0 then ['-'] else style.plus
    mantissa ++ 'e' :: sign ++ Nat.toDigits 10 e.natAbs

/-- The text of a finite double. -/
def finiteText (style : Style) (d : Double) : List Char :=
  let body :=
    if d.magnitude = 0 then '0' :: style.whole else (shortest d.magnitude).render style
  if d.negative then '-' :: body else body

/-- The plain text of any double. -/
def text (d : Double) : String :=
  if d.isNaN then "NaN"
  else if d.isFinite then String.ofList (finiteText plain d)
  else if d.negative then "-inf" else "inf"

/-! ## Reading -/

/-- Why a text is no floating-point number. -/
inductive TextError where
  | empty
  | invalid
deriving DecidableEq, Repr

def TextError.message : TextError → String
  | .empty => "cannot parse float from empty string"
  | .invalid => "invalid float literal"

def digitValue (ds : List Char) : Nat := ds.foldl (fun n c => 10 * n + (c.toNat - 48)) 0

/-- A sign, if there is one, and what follows it. -/
def takeSign : List Char → Bool × List Char
  | '+' :: cs => (false, cs)
  | '-' :: cs => (true, cs)
  | cs => (false, cs)

/-- The exponent that makes up the whole rest of a numeral; an absent one is zero. -/
def exponentOf : List Char → Option Int
  | [] => some 0
  | c :: cs =>
    if c = 'e' ∨ c = 'E' then
      let (minus, ds) := takeSign cs
      if ds ≠ [] ∧ ds.all Char.isDigit then
        some (if minus then -(digitValue ds : Int) else digitValue ds)
      else none
    else none

/-- A numeral of digits with an optional point; at least one digit is needed. -/
def numeralOf (cs : List Char) : Option Numeral :=
  let whole := cs.takeWhile Char.isDigit
  let rest := cs.dropWhile Char.isDigit
  let (fraction, rest) :=
    match rest with
    | '.' :: r => (r.takeWhile Char.isDigit, r.dropWhile Char.isDigit)
    | r => ([], r)
  if whole = [] ∧ fraction = [] then none
  else (exponentOf rest).map fun e => ⟨digitValue (whole ++ fraction), e - fraction.length⟩

/-- Reads a text as a double. -/
def ofText (s : String) : Except TextError Double :=
  let (minus, cs) := takeSign s.toList
  if s.toList = [] then .error .empty
  else
    match numeralOf cs with
    | some n => .ok (make minus n.nearest)
    | none =>
      let name := cs.map Text.lower
      if name = "inf".toList ∨ name = "infinity".toList then .ok (make minus infinite)
      else if name = "nan".toList then .ok (make minus nan.magnitude)
      else .error .invalid

end FunctionWorker.Double
