/-
Rounding of fractions and numerals. A fraction is rounded as the number it stands for, so neither a common factor
of its parts nor a zero at the end of the digits of a numeral counts. A finite double is rounded to itself, and so is
the numeral that writes it out in full.
-/
import FunctionWorker.Double.Shortest
import Mathlib.Tactic

namespace FunctionWorker.Double

variable {num den digits magnitude : Nat} {exponent : Int}

/-! ## Fractions -/

theorem roundDiv_mul (num den : Nat) {k : Nat} (hk : 0 < k) : roundDiv (num * k) (den * k) = roundDiv num den := by
  have hquotient : num * k / (den * k) = num / den := Nat.mul_div_mul_right num den hk
  have hrest : num * k % (den * k) = num % den * k := Nat.mul_mod_mul_right k num den
  have hlow : 2 * (num % den * k) < den * k ↔ 2 * (num % den) < den := by
    rw [← mul_assoc]
    exact Nat.mul_lt_mul_right hk
  have hhigh : den * k < 2 * (num % den * k) ↔ den < 2 * (num % den) := by
    rw [← mul_assoc]
    exact Nat.mul_lt_mul_right hk
  unfold roundDiv
  simp only [hquotient, hrest, hlow, hhigh]

/-- A fraction without rest needs no rounding. -/
theorem roundDiv_exact (n : Nat) (hden : 0 < den) : roundDiv (n * den) den = n := by
  unfold roundDiv
  simp [Nat.mul_div_cancel n hden, hden]

/-- A common factor of the parts of a fraction does not count. -/
theorem nearest_mul (num den : Nat) {k : Nat} (hk : 0 < k) : nearest (num * k) (den * k) = nearest num den := by
  unfold nearest
  generalize Nat.pow 2 1074 = unit
  have hquotient : num * k * unit / (den * k) = num * unit / den := by
    rw [mul_right_comm, Nat.mul_div_mul_right _ _ hk]
  have hround (shift : Nat) :
      roundDiv (num * k * unit) (den * k * Nat.pow 2 shift) = roundDiv (num * unit) (den * Nat.pow 2 shift) := by
    rw [mul_right_comm num, mul_right_comm den]
    exact roundDiv_mul _ _ hk
  dsimp only
  rw [hquotient, hround]

/-! ## Numerals -/

theorem toDigits_mul_ten (hdigits : 0 < digits) : Nat.toDigits 10 (10 * digits) = Nat.toDigits 10 digits ++ ['0'] :=
  (Nat.toDigits_append_toDigits (b := 10) (d := 0) (by decide) hdigits (by decide)).symm

theorem digitCount_mul_ten (hdigits : 0 < digits) : digitCount (10 * digits) = digitCount digits + 1 := by
  unfold digitCount
  rw [toDigits_mul_ten hdigits]
  simp

/-- A zero at the end of the digits can be left out when the exponent makes up for it. -/
theorem nearestDecimal_mul_ten (digits : Nat) (exponent : Int) :
    nearestDecimal (10 * digits) exponent = nearestDecimal digits (exponent + 1) := by
  by_cases hzero : digits = 0
  · simp [nearestDecimal, hzero]
  have hdigits : 0 < digits := Nat.pos_of_ne_zero hzero
  have hsize : exponent + (digitCount (10 * digits) : Int) = exponent + 1 + digitCount digits := by
    rw [digitCount_mul_ten hdigits]
    push_cast
    ring
  -- whichever side of zero the exponent is on, the fraction is the same
  have hnearest : (if 0 ≤ exponent then nearest (10 * digits * Nat.pow 10 exponent.toNat) 1
        else nearest (10 * digits) (Nat.pow 10 (-exponent).toNat)) =
      if 0 ≤ exponent + 1 then nearest (digits * Nat.pow 10 (exponent + 1).toNat) 1
        else nearest digits (Nat.pow 10 (-(exponent + 1)).toNat) := by
    rcases lt_trichotomy exponent (-1) with hbelow | hminus | habove
    · have hpow : Nat.pow 10 (-exponent).toNat = Nat.pow 10 (-(exponent + 1)).toNat * 10 := by
        rw [show (-exponent).toNat = (-(exponent + 1)).toNat + 1 by omega]
        rfl
      rw [if_neg (by omega), if_neg (by omega), hpow, mul_comm 10 digits, nearest_mul _ _ (by decide)]
    · subst hminus
      have := nearest_mul digits 1 (k := 10) (by decide)
      rw [mul_comm digits] at this
      simpa using this
    · have hpow : Nat.pow 10 (exponent + 1).toNat = Nat.pow 10 exponent.toNat * 10 := by
        rw [show (exponent + 1).toNat = exponent.toNat + 1 by omega]
        rfl
      rw [if_pos (by omega), if_pos (by omega), hpow]
      congr 1
      ring
  unfold nearestDecimal
  rw [if_neg (by omega), if_neg hzero]
  dsimp only
  rw [hsize, hnearest]

theorem nearestDecimal_mul_pow (digits : Nat) (exponent : Int) (k : Nat) :
    nearestDecimal (digits * 10 ^ k) exponent = nearestDecimal digits (exponent + k) := by
  induction k generalizing exponent with
  | zero => simp
  | succ k ih =>
    rw [show digits * 10 ^ (k + 1) = 10 * (digits * 10 ^ k) by ring, nearestDecimal_mul_ten, ih]
    congr 1
    push_cast
    ring

/-- A numeral is rounded as it is without the zeros at its end. -/
theorem Numeral.nearest_trimmed (fuel : Nat) (n : Numeral) : (n.trimmed fuel).nearest = n.nearest := by
  induction fuel generalizing n with
  | zero => rfl
  | succ fuel ih =>
    unfold Numeral.trimmed
    split
    · rename_i hends
      have hdigits : n.digits = 10 * (n.digits / 10) := by omega
      rw [ih]
      calc nearestDecimal (n.digits / 10) (n.exponent + 1)
        _ = nearestDecimal (10 * (n.digits / 10)) n.exponent := (nearestDecimal_mul_ten _ _).symm
        _ = n.nearest := by rw [← hdigits]; rfl
    · rfl

/-! ## Finite doubles -/

/-! Large exponents, that of the unit above all, are variables in what follows, so that none of the powers is ever
evaluated. -/

variable {scale : Nat}

theorem natPow_pos (b k : Nat) (hb : 0 < b) : 0 < Nat.pow b k := Nat.pow_pos hb

/-- A whole number of units is rounded by the bits that it has too many. -/
theorem nearest_whole (hscale : scale = 1074) (n : Nat) : nearest n (Nat.pow 2 scale) =
    min ((n.log2 - 52) * 0x10000000000000 + roundDiv n (Nat.pow 2 (n.log2 - 52))) infinite := by
  have hunit := natPow_pos 2 scale (by decide)
  unfold nearest
  rw [← hscale]
  dsimp only
  rw [Nat.mul_div_cancel n hunit, mul_comm (Nat.pow 2 scale), roundDiv_mul _ _ hunit]

/-- Of the units of a double, 53 bits count, the first of which is hidden in its magnitude. -/
theorem log2_units {fraction : Nat} (shift : Nat) (hfraction : fraction < 0x10000000000000) :
    ((0x10000000000000 + fraction) * Nat.pow 2 shift).log2 = 52 + shift := by
  have hpos : 0 < 2 ^ shift := Nat.two_pow_pos shift
  show ((0x10000000000000 + fraction) * 2 ^ shift).log2 = 52 + shift
  rw [Nat.log2_eq_iff (by positivity)]
  constructor
  · rw [pow_add]
    apply Nat.mul_le_mul_right
    omega
  · rw [show 52 + shift + 1 = 53 + shift by omega, pow_add]
    apply Nat.mul_lt_mul_of_pos_right _ hpos
    omega

/-- A finite double is nearest to the number it stands for. -/
theorem nearest_units (hscale : scale = 1074) (hfinite : magnitude < infinite) :
    nearest (units magnitude) (Nat.pow 2 scale) = magnitude := by
  rw [nearest_whole hscale]
  unfold units
  by_cases hsmall : magnitude < 0x10000000000000
  · have hshift : magnitude.log2 - 52 = 0 := by
      by_cases hzero : magnitude = 0
      · subst hzero
        decide
      · have := (Nat.log2_lt hzero (k := 52)).2 hsmall
        omega
    have hround : roundDiv magnitude (Nat.pow 2 0) = magnitude := by
      simpa using roundDiv_exact magnitude (by decide : 0 < 1)
    rw [if_pos hsmall, hshift, hround]
    omega
  · rw [if_neg hsmall]
    generalize hexponent : magnitude / 0x10000000000000 - 1 = shift
    have hfraction : magnitude % 0x10000000000000 < 0x10000000000000 := Nat.mod_lt _ (by decide)
    rw [log2_units shift hfraction, show 52 + shift - 52 = shift by omega,
      roundDiv_exact _ (natPow_pos 2 shift (by decide))]
    omega

/-! ## Numerals of finite doubles -/

theorem units_pos (hpos : 0 < magnitude) : 0 < units magnitude := by
  unfold units
  split
  · exact hpos
  · exact Nat.mul_pos (by omega) (natPow_pos 2 _ (by decide))

theorem units_lt {bits : Nat} (hbits : bits = 2098) (hfinite : magnitude < infinite) :
    units magnitude < Nat.pow 2 bits := by
  generalize hshift : magnitude / 0x10000000000000 - 1 = shift
  have hle : 53 + shift ≤ bits := by
    unfold infinite at hfinite
    omega
  have hpos : 0 < 2 ^ shift := Nat.two_pow_pos shift
  apply lt_of_lt_of_le _ (Nat.pow_le_pow_right (by decide) hle)
  unfold units
  rw [hshift, pow_add]
  split
  · rename_i hsmall
    have := Nat.le_mul_of_pos_right (2 ^ 53) hpos
    omega
  · apply Nat.mul_lt_mul_of_pos_right _ hpos
    omega

theorem digitCount_le_iff {k : Nat} (hk : 0 < k) : digitCount digits ≤ k ↔ digits < Nat.pow 10 k :=
  Nat.length_toDigits_le_iff (by decide) hk

theorem expansion_least {low : Nat} (hscale : scale = 1074) (hlow : low = 673) :
    Nat.pow 10 low ≤ Nat.pow 5 scale := by
  rw [hscale, hlow]
  decide +kernel

theorem expansion_greatest {high bits : Nat} (hscale : scale = 1074) (hbits : bits = 2098) (hhigh : high = 1474) :
    Nat.pow 2 bits * Nat.pow 5 scale ≤ Nat.pow 10 high := by
  rw [hscale, hbits, hhigh]
  decide +kernel

/-- A double that is written out in full has more than 673 digits and not more than 1474. -/
theorem digitCount_expansion (hscale : scale = 1074) (hpos : 0 < magnitude) (hfinite : magnitude < infinite) :
    673 < digitCount (units magnitude * Nat.pow 5 scale) ∧ digitCount (units magnitude * Nat.pow 5 scale) ≤ 1474 := by
  constructor
  · generalize hlow : 673 = low
    by_contra hfew
    have hlt := (digitCount_le_iff (by omega)).1 (not_lt.1 hfew)
    have hle := Nat.le_mul_of_pos_left (Nat.pow 5 scale) (units_pos hpos)
    exact absurd hlt (not_lt.2 ((expansion_least hscale hlow.symm).trans hle))
  · generalize hhigh : 1474 = high
    generalize hbits : 2098 = bits
    rw [digitCount_le_iff (by omega)]
    have hlt := Nat.mul_lt_mul_of_pos_right (units_lt hbits.symm hfinite) (natPow_pos 5 scale (by decide))
    exact lt_of_lt_of_le hlt (expansion_greatest hscale hbits.symm hhigh.symm)

/-- The numeral that writes out a double in full is rounded to it. -/
theorem nearest_expansion (hpos : 0 < magnitude) (hfinite : magnitude < infinite) :
    (expansion magnitude).nearest = magnitude := by
  obtain ⟨scale, hscale⟩ : ∃ scale, scale = 1074 := ⟨1074, rfl⟩
  obtain ⟨hleast, hgreatest⟩ := digitCount_expansion hscale hpos hfinite
  have hfive := natPow_pos 5 scale (by decide)
  have hdigits : units magnitude * Nat.pow 5 scale ≠ 0 := Nat.ne_of_gt (Nat.mul_pos (units_pos hpos) hfive)
  have htens : Nat.pow 10 scale = Nat.pow 2 scale * Nat.pow 5 scale := Nat.mul_pow 2 5 scale
  have hexponent : (-(-1074 : Int)).toNat = scale := by
    rw [hscale]
    rfl
  unfold Numeral.nearest expansion nearestDecimal
  rw [← hscale]
  dsimp only
  rw [if_neg hdigits, if_neg (by omega), if_neg (by omega), if_neg (by omega), hexponent, htens,
    nearest_mul _ _ hfive, nearest_units hscale hfinite]

/-- The shortest numeral of a double is rounded to it. -/
theorem nearest_shortest (hpos : 0 < magnitude) (hfinite : magnitude < infinite) :
    (shortest magnitude).nearest = magnitude := by
  unfold shortest
  dsimp only
  rw [Numeral.nearest_trimmed]
  cases hfound : (List.range 17).findSome? fun n => onGrid magnitude (place magnitude - (n + 1 : Nat)) with
  | none => exact nearest_expansion hpos hfinite
  | some n =>
    -- a numeral on a grid is taken only if it is rounded to the double
    obtain ⟨_, _, _, _, hgrid, _⟩ := List.findSome?_eq_some_iff.1 hfound
    unfold onGrid at hgrid
    simpa using List.find?_some hgrid

end FunctionWorker.Double
