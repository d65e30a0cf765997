/-
Whole numbers as text. A number is printed as its sign and its digits; it is read from the left, and the
bounds are checked after each digit. The number read so far is never farther from zero than the number in
the end, so the text of a number within bounds is read as that number. Neither a digit nor the sign is a
blank or a quote, so such a text stands when those are removed around it.
-/
import FunctionWorker.Integer
import FunctionWorker.Json.Printer
import FunctionWorker.Text.Blank
import Mathlib.Tactic

namespace FunctionWorker

/-! ## Removal at both ends -/

namespace Text

variable {p : Char → Bool} {cs : List Char}

theorem stripList_eq_self (h : ∀ c ∈ cs, p c = false) : stripList p cs = cs := by
  have hdrop : ∀ l : List Char, (∀ c ∈ l, p c = false) → l.dropWhile p = l := by
    intro l hl
    cases l with
    | nil => rfl
    | cons c l => simp [hl c (List.mem_cons_self ..)]
  unfold stripList
  rw [hdrop cs h, hdrop cs.reverse fun c hc => h c (List.mem_reverse.1 hc), List.reverse_reverse]

theorem strip_eq_self (h : ∀ c ∈ cs, p c = false) : strip p (String.ofList cs) = String.ofList cs := by
  unfold strip
  rw [String.toList_ofList, stripList_eq_self h]

/-- No visible character of ASCII is a blank. -/
theorem isBlank_of_visible {c : Char} (hlow : 0x20 < c.toNat) (hhigh : c.toNat < 0x80) : isBlank c = false := by
  simp [isBlank, blankRanges]
  omega

end Text

/-! ## Reading digits -/

namespace Integer

variable {b : Bounds} {negative : Bool} {cs : List Char}

/-- A number as far from zero as `n`, on the side that its sign says. -/
def signed (negative : Bool) (n : Nat) : Int := if negative then -n else n

theorem le_ofDigitChars (cs : List Char) (n : Nat) : n ≤ Nat.ofDigitChars 10 cs n := by
  induction cs generalizing n with
  | nil => simp
  | cons c cs ih =>
    rw [Nat.ofDigitChars_cons]
    have := ih (10 * n + (c.toNat - '0'.toNat))
    omega

/-- Digits are read as the number that they say, if that and zero are within the bounds. -/
theorem digits_eq_ok {n : Nat} (hdigits : ∀ c ∈ cs, c.isDigit = true) (hleast : b.least ≤ 0)
    (hgreatest : 0 ≤ b.greatest) (hlow : b.least ≤ signed negative (Nat.ofDigitChars 10 cs n))
    (hhigh : signed negative (Nat.ofDigitChars 10 cs n) ≤ b.greatest) :
    digits b negative (signed negative n) cs = .ok (signed negative (Nat.ofDigitChars 10 cs n)) := by
  induction cs generalizing n with
  | nil => simp [digits]
  | cons c cs ih =>
    rw [Nat.ofDigitChars_cons] at hlow hhigh ⊢
    have hc := hdigits c (List.mem_cons_self ..)
    obtain ⟨h0, -⟩ := Char.isDigit_iff_toNat.1 hc
    have hzero : '0'.toNat = 48 := rfl
    rw [hzero] at h0 hlow hhigh ⊢
    have hle := le_ofDigitChars cs (10 * n + (c.toNat - 48))
    -- the number after this digit, which lies between zero and the number in the end
    have hnext : (if negative then 10 * signed negative n - ((c.toNat : Int) - 48)
        else 10 * signed negative n + ((c.toNat : Int) - 48)) = signed negative (10 * n + (c.toNat - 48)) := by
      cases negative <;> simp [signed] <;> omega
    have hbelow : ¬ b.greatest < signed negative (10 * n + (c.toNat - 48)) := by
      cases negative <;> simp [signed] at * <;> omega
    have habove : ¬ signed negative (10 * n + (c.toNat - 48)) < b.least := by
      cases negative <;> simp [signed] at * <;> omega
    simp only [digits, hc, if_true]
    rw [hnext, if_neg hbelow, if_neg habove]
    exact ih (fun x hx => hdigits x (List.mem_cons_of_mem _ hx)) hlow hhigh

/-! ## Printed numbers -/

theorem isDigit_of_mem_toDigits {c : Char} {n : Nat} (h : c ∈ Nat.toDigits 10 n) : c.isDigit = true :=
  Nat.isDigit_of_mem_toDigits (by decide) (by decide) h

/-- A text that begins with a digit is read from its first character on, without a sign. -/
theorem ofList_of_digit {c : Char} (hc : c.isDigit = true) :
    ofList b (c :: cs) = digits b false 0 (c :: cs) := by
  unfold ofList
  split <;> first | rfl | simp_all

/-- A number within bounds is read as it is printed. -/
theorem ofList_printInt {i : Int} (hleast : b.least ≤ 0) (hgreatest : 0 ≤ b.greatest) (hlow : b.least ≤ i)
    (hhigh : i ≤ b.greatest) : ofList b (Json.printInt i) = .ok i := by
  have hread (negative : Bool) (hi : signed negative i.natAbs = i) :
      digits b negative 0 (Nat.toDigits 10 i.natAbs) = .ok i := by
    have hval : signed negative (Nat.ofDigitChars 10 (Nat.toDigits 10 i.natAbs) 0) = i := by
      rw [Nat.ofDigitChars_ten_toDigits, hi]
    have hzero : signed negative 0 = 0 := by cases negative <;> rfl
    calc digits b negative 0 (Nat.toDigits 10 i.natAbs)
      _ = digits b negative (signed negative 0) (Nat.toDigits 10 i.natAbs) := by rw [hzero]
      _ = .ok (signed negative (Nat.ofDigitChars 10 (Nat.toDigits 10 i.natAbs) 0)) := by
        refine digits_eq_ok (fun c hc => isDigit_of_mem_toDigits hc) hleast hgreatest ?_ ?_
        · rw [hval]
          exact hlow
        · rw [hval]
          exact hhigh
      _ = .ok i := by rw [hval]
  obtain ⟨c, cs, hcs⟩ := List.exists_cons_of_ne_nil (Nat.toDigits_ne_nil (n := i.natAbs) (b := 10))
  have hc : c.isDigit = true := isDigit_of_mem_toDigits (hcs ▸ List.mem_cons_self ..)
  unfold Json.printInt
  split
  · rename_i hneg
    have h := hread true (by simp only [signed, if_true]; omega)
    rw [hcs] at h ⊢
    simp only [ofList, if_pos (show b.least < 0 by omega)]
    exact h
  · rename_i hneg
    have h := hread false (by simp only [signed, Bool.false_eq_true, if_false]; omega)
    rw [hcs] at h ⊢
    rw [ofList_of_digit hc]
    exact h

/-- A digit is neither a blank nor a quote. -/
theorem visible_of_isDigit {c : Char} (h : c.isDigit = true) : Text.isBlank c = false ∧ c ≠ '"' := by
  obtain ⟨h0, h9⟩ := Char.isDigit_iff_toNat.1 h
  simp only [Char.reduceToNat] at h0 h9
  constructor
  · exact Text.isBlank_of_visible (by omega) (by omega)
  · rintro rfl
    simp at h0

/-- A number is printed without blanks and quotes. -/
theorem visible_of_mem_printInt {i : Int} {c : Char} (h : c ∈ Json.printInt i) :
    Text.isBlank c = false ∧ c ≠ '"' := by
  unfold Json.printInt at h
  split at h
  · rcases List.mem_cons.1 h with rfl | h
    · decide
    · exact visible_of_isDigit (isDigit_of_mem_toDigits h)
  · exact visible_of_isDigit (isDigit_of_mem_toDigits h)

end Integer

end FunctionWorker
