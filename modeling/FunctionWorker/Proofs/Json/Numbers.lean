/-
Whole numbers in JSON texts. A number ends where no digit follows, so it is read to its end when a separator or a
bracket stands after it; it has no leading zero but zero itself, and its digits make it up again as long as it is
one of 64 bits.
-/
import FunctionWorker.Json.Reader
import FunctionWorker.Proofs.Text.Decimal
import FunctionWorker.Proofs.Text.Utf8

namespace FunctionWorker.Json

open Raw (octet)

variable {rest : Bytes} {cs : List Char} {n : Nat}

/-! ## What stands after a value -/

/-- What stands after a value in a printed text: nothing, a separator or a closing bracket. -/
inductive Delimited : Bytes → Prop where
  | nil : Delimited []
  | cons {b : UInt8} (bs : Bytes) (h : b ∈ [octet ',', octet ']', octet '\x7d']) : Delimited (b :: bs)

/-- A delimiter is no part of a number. -/
theorem delimiter_ends : ∀ b ∈ [octet ',', octet ']', octet '\x7d'],
    Raw.isDigit b = false ∧ b ≠ octet '.' ∧ ¬ (b = octet 'e' ∨ b = octet 'E') := by
  decide +kernel

/-! ## Digits -/

/-- The octets of the digits of a number. -/
def digitOctets (n : Nat) : Bytes := (Nat.toDigits 10 n).map octet

theorem toNat_digit {c : Char} (h : c.isDigit = true) : 48 ≤ c.toNat ∧ c.toNat ≤ 57 ∧ (octet c).toNat = c.toNat := by
  obtain ⟨h0, h9⟩ := Char.isDigit_iff_toNat.1 h
  simp only [Char.reduceToNat] at h0 h9
  refine ⟨h0, h9, ?_⟩
  rw [octet, UInt8.toNat_ofNat']
  omega

theorem isDigit_octet {c : Char} (h : c.isDigit = true) : Raw.isDigit (octet c) = true := by
  obtain ⟨h0, h9, hval⟩ := toNat_digit h
  simp only [Raw.isDigit, Bool.and_eq_true, decide_eq_true_eq, UInt8.le_iff_toNat_le, hval]
  exact ⟨h0, h9⟩

theorem encode_digits (h : ∀ c ∈ cs, c.isDigit = true) : Text.encode cs = cs.map octet := by
  induction cs with
  | nil => rfl
  | cons c cs ih =>
    obtain ⟨-, h9, -⟩ := toNat_digit (h c (List.mem_cons_self ..))
    rw [Text.encode_cons, Text.utf8EncodeChar_ascii (by omega), ih fun d hd => h d (List.mem_cons_of_mem _ hd)]
    rfl

theorem encode_toDigits (n : Nat) : Text.encode (Nat.toDigits 10 n) = digitOctets n :=
  encode_digits fun _ hc => Integer.isDigit_of_mem_toDigits hc

/-- A number has a first digit. -/
theorem exists_toDigits (n : Nat) : ∃ c cs, c.isDigit = true ∧ Nat.toDigits 10 n = c :: cs ∧
    digitOctets n = octet c :: cs.map octet := by
  obtain ⟨c, cs, hcs⟩ := List.exists_cons_of_ne_nil (Nat.toDigits_ne_nil (n := n) (b := 10))
  refine ⟨c, cs, Integer.isDigit_of_mem_toDigits (hcs ▸ List.mem_cons_self ..), hcs, ?_⟩
  rw [digitOctets, hcs, List.map_cons]

/-- No digit is a zero in front of another. -/
theorem toDigits_leading (n : Nat) : ∀ {cs : List Char}, Nat.toDigits 10 n = '0' :: cs → cs = [] := by
  induction n using Nat.strong_induction_on with
  | _ n ih =>
    intro cs h
    rw [Nat.toDigits_eq_if (by decide)] at h
    split at h
    · exact (List.cons.inj h).2.symm
    · rename_i hlarge
      obtain ⟨c, front, -, hfront, -⟩ := exists_toDigits (n / 10)
      rw [hfront] at h
      obtain ⟨rfl, -⟩ := List.cons.inj h
      -- the digits in front are a lone zero, though the number is ten at least
      have hzero := Nat.ofDigitChars_ten_toDigits (n := n / 10)
      rw [hfront, ih (n / 10) (by omega) hfront] at hzero
      have : (0 : Nat) = n / 10 := hzero
      omega

theorem takeDigits_digits (h : Delimited rest) : Raw.takeDigits (digitOctets n ++ rest) = (digitOctets n, rest) := by
  have hdigits : ∀ b ∈ digitOctets n, Raw.isDigit b = true := by
    intro b hb
    obtain ⟨c, hc, rfl⟩ := List.mem_map.1 hb
    exact isDigit_octet (Integer.isDigit_of_mem_toDigits hc)
  unfold Raw.takeDigits
  rw [List.takeWhile_append_of_pos hdigits, List.dropWhile_append_of_pos hdigits]
  cases h with
  | nil => simp
  | cons bs h => simp [(delimiter_ends _ h).1]

theorem wholePart_digits (h : Delimited rest) :
    Raw.wholePart (digitOctets n ++ rest) = some (digitOctets n, rest) := by
  obtain ⟨c, cs, hdigit, hcs, hoctets⟩ := exists_toDigits n
  unfold Raw.wholePart
  rw [takeDigits_digits h]
  rw [hoctets]
  refine if_neg ?_
  rintro ⟨hzero, hmore⟩
  have hc : c = '0' := by
    obtain ⟨-, -, hval⟩ := toNat_digit hdigit
    rw [hzero] at hval
    exact Char.toNat_inj.1 hval.symm
  rw [hc] at hcs
  exact hmore (List.map_eq_nil_iff.2 (toDigits_leading n hcs))

/-! ## Numbers -/

/-- A whole number as it is written. -/
def writtenInt (i : Int) : RawNumber := ⟨i < 0, digitOctets i.natAbs, none, none⟩

theorem unsigned_digits (negative : Bool) (h : Delimited rest) :
    Raw.unsigned negative (digitOctets n ++ rest) = some (.number ⟨negative, digitOctets n, none, none⟩, rest) := by
  unfold Raw.unsigned
  rw [wholePart_digits h]
  cases h with
  | nil => rfl
  | cons bs h =>
    obtain ⟨-, hpoint, hexponent⟩ := delimiter_ends _ h
    simp [Raw.fractionPart, Raw.exponentPart, hpoint, hexponent]

/-- A number is read as it is printed, up to what stands after it. -/
theorem scalar_printInt (i : Int) (h : Delimited rest) :
    Raw.scalar (Text.encode (printInt i) ++ rest) = some (.number (writtenInt i), rest) := by
  unfold printInt writtenInt
  split
  · rename_i hnegative
    rw [Text.encode_cons, Text.utf8EncodeChar_ascii (by decide), encode_toDigits]
    refine (unsigned_digits true h).trans ?_
    rw [decide_eq_true hnegative]
  · rename_i hnegative
    rw [encode_toDigits, decide_eq_false hnegative, ← unsigned_digits false h]
    -- the first digit is not taken for a sign
    obtain ⟨c, cs, hdigit, -, hoctets⟩ := exists_toDigits i.natAbs
    have hsign : octet c ≠ octet '-' := by
      intro heq
      have hisDigit := isDigit_octet hdigit
      rw [heq] at hisDigit
      exact absurd hisDigit (by decide)
    rw [hoctets, List.cons_append, Raw.scalar]
    simp only [hsign, isDigit_octet hdigit, if_false, if_true]

/-- Digits make up the number that they say, as long as it is one of 64 bits. -/
theorem significand_digits (h : ∀ c ∈ cs, c.isDigit = true) (hbound : Nat.ofDigitChars 10 cs n < 0x10000000000000000) :
    RawNumber.significand n (cs.map octet) = (Nat.ofDigitChars 10 cs n, 0) := by
  induction cs generalizing n with
  | nil => rfl
  | cons c cs ih =>
    have hdigit : RawNumber.digit (octet c) = c.toNat - '0'.toNat :=
      congrArg (· - 48) (toNat_digit (h c (List.mem_cons_self ..))).2.2
    rw [Nat.ofDigitChars_cons] at hbound ⊢
    have hle := Integer.le_ofDigitChars cs (10 * n + (c.toNat - '0'.toNat))
    rw [List.map_cons, RawNumber.significand, hdigit, if_pos (by omega)]
    exact ih (fun d hd => h d (List.mem_cons_of_mem _ hd)) hbound

/-- A whole number of 64 bits stands for itself. -/
theorem value?_writtenInt {i : Int} (h : isExact i = true) : (writtenInt i).value? = some (.int i) := by
  simp only [isExact, Bool.and_eq_true, decide_eq_true_eq] at h
  have hsignificand : RawNumber.significand 0 (digitOctets i.natAbs) = (i.natAbs, 0) := by
    have hdigits := significand_digits (n := 0)
      fun c (hc : c ∈ Nat.toDigits 10 i.natAbs) => Integer.isDigit_of_mem_toDigits hc
    rw [Nat.ofDigitChars_ten_toDigits] at hdigits
    exact hdigits (by omega)
  unfold RawNumber.value? writtenInt
  rw [hsignificand]
  by_cases hnegative : i < 0
  · have hsize : 0 < i.natAbs ∧ i.natAbs ≤ 0x8000000000000000 := by omega
    have hvalue : -(i.natAbs : Int) = i := by omega
    rw [decide_eq_true hnegative]
    refine (if_pos hsize).trans ?_
    rw [hvalue]
  · have hvalue : (i.natAbs : Int) = i := by omega
    rw [decide_eq_false hnegative]
    exact congrArg (fun value => some (RawNumber.Value.int value)) hvalue

end FunctionWorker.Json
