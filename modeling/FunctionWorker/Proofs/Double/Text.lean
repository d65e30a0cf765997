/-
The texts of finite doubles. A numeral is written as digits, with a fraction or an exponent where its size asks for
one, and whatever is written so is read as a numeral that is rounded to the same double. So the text of a double is
read back as that double, its sign included.
-/
import FunctionWorker.Double.Text
import FunctionWorker.Proofs.Double.Rounding
import FunctionWorker.Proofs.Text.Decimal

namespace FunctionWorker.Double

/-! ## Digits -/

/-- A text of digits. -/
def Digits (cs : List Char) : Prop := ∀ c ∈ cs, c.isDigit = true

theorem digits_toDigits (k : Nat) : Digits (Nat.toDigits 10 k) := fun _ => Integer.isDigit_of_mem_toDigits

theorem digits_zeros (k : Nat) : Digits (zeros k) := by
  intro c hc
  rw [List.eq_of_mem_replicate hc]
  decide

theorem Digits.append {ws fs : List Char} (hws : Digits ws) (hfs : Digits fs) : Digits (ws ++ fs) := by
  intro c hc
  rcases List.mem_append.1 hc with h | h
  · exact hws c h
  · exact hfs c h

theorem digitValue_eq (cs : List Char) : digitValue cs = Nat.ofDigitChars 10 cs 0 := Nat.ofDigitChars_eq_foldl.symm

theorem digitValue_toDigits (k : Nat) : digitValue (Nat.toDigits 10 k) = k := by
  rw [digitValue_eq, Nat.ofDigitChars_ten_toDigits]

/-- Zeros in front of digits do not count. -/
theorem digitValue_zeros_append (k : Nat) (cs : List Char) : digitValue (zeros k ++ cs) = digitValue cs := by
  rw [digitValue_eq, digitValue_eq, Nat.ofDigitChars_append, zeros, Nat.ofDigitChars_replicate_zero, Nat.mul_zero]

theorem digitValue_append_zeros (cs : List Char) (k : Nat) : digitValue (cs ++ zeros k) = digitValue cs * 10 ^ k := by
  rw [digitValue_eq, digitValue_eq, Nat.ofDigitChars_append, zeros, Nat.ofDigitChars_replicate_zero, Nat.mul_comm]

/-! ## Written numerals -/

/-- The exponent after the digits of a numeral. One that is absent is zero. -/
inductive WrittenExponent : List Char → Int → Prop
  | absent : WrittenExponent [] 0
  | negative {e : Int} (h : e < 0) : WrittenExponent ('e' :: '-' :: Nat.toDigits 10 e.natAbs) e
  | positive {e : Int} (h : 0 ≤ e) : WrittenExponent ('e' :: '+' :: Nat.toDigits 10 e.natAbs) e

/-- A numeral of digits, perhaps with a fraction. -/
inductive Written : List Char → Numeral → Prop
  | whole {ws rest : List Char} {e : Int} (hws : Digits ws) (hne : ws ≠ []) (hrest : WrittenExponent rest e) :
      Written (ws ++ rest) ⟨digitValue ws, e⟩
  | fraction {ws fs rest : List Char} {e : Int} (hws : Digits ws) (hne : ws ≠ []) (hfs : Digits fs)
      (hrest : WrittenExponent rest e) :
      Written (ws ++ '.' :: (fs ++ rest)) ⟨digitValue (ws ++ fs), e - fs.length⟩

variable {cs ws fs rest : List Char} {n : Numeral} {e : Int} {d : Double}

theorem WrittenExponent.exponentOf (h : WrittenExponent rest e) : exponentOf rest = some e := by
  have hdigits : Nat.toDigits 10 e.natAbs ≠ [] ∧ (Nat.toDigits 10 e.natAbs).all Char.isDigit = true :=
    ⟨Nat.toDigits_ne_nil, List.all_eq_true.2 (digits_toDigits _)⟩
  cases h with
  | absent => rfl
  | negative h =>
    have hvalue : -(e.natAbs : Int) = e := by omega
    rw [Double.exponentOf, if_pos (.inl rfl)]
    simp only [takeSign, hdigits, digitValue_toDigits, hvalue, if_true, and_self, ne_eq, not_false_eq_true]
  | positive h =>
    have hvalue : (e.natAbs : Int) = e := by omega
    rw [Double.exponentOf, if_pos (.inl rfl)]
    simp [takeSign, hdigits, digitValue_toDigits, hvalue]

/-- Digits are taken up to an exponent. -/
theorem WrittenExponent.takeDigits (h : WrittenExponent rest e) (hws : Digits ws) :
    (ws ++ rest).takeWhile Char.isDigit = ws ∧ (ws ++ rest).dropWhile Char.isDigit = rest := by
  rw [List.takeWhile_append_of_pos hws, List.dropWhile_append_of_pos hws]
  cases h with
  | absent => simp
  | negative => simp
  | positive => simp

/-- What is written as a numeral is read as that numeral. -/
theorem Written.numeralOf (h : Written cs n) : numeralOf cs = some n := by
  unfold Double.numeralOf
  cases h with
  | whole hws hne hrest =>
    obtain ⟨htake, hdrop⟩ := hrest.takeDigits hws
    have hexponent := hrest.exponentOf
    rw [htake, hdrop]
    -- no exponent begins with a point
    cases hrest with
    | absent => simp [hne, hexponent]
    | negative => simp [hne, hexponent]
    | positive => simp [hne, hexponent]
  | @fraction ws fs rest e hws hne hfs hrest =>
    obtain ⟨htake, hdrop⟩ := hrest.takeDigits hfs
    have hpoint : (ws ++ '.' :: (fs ++ rest)).takeWhile Char.isDigit = ws ∧
        (ws ++ '.' :: (fs ++ rest)).dropWhile Char.isDigit = '.' :: (fs ++ rest) := by
      rw [List.takeWhile_append_of_pos hws, List.dropWhile_append_of_pos hws]
      simp
    rw [hpoint.1, hpoint.2]
    simp [htake, hdrop, hne, hrest.exponentOf]

/-- A written numeral begins with a digit. -/
theorem Written.head (h : Written cs n) : ∃ c tail, cs = c :: tail ∧ c.isDigit = true := by
  cases h with
  | whole hws hne | fraction hws hne =>
    obtain ⟨c, tail, rfl⟩ := List.exists_cons_of_ne_nil hne
    exact ⟨c, _, rfl, hws c (List.mem_cons_self ..)⟩

theorem WrittenExponent.visible (h : WrittenExponent rest e) : ∀ c ∈ rest, Text.isBlank c = false ∧ c ≠ '"' := by
  intro c hc
  cases h with
  | absent => cases hc
  | negative h | positive h =>
    simp only [List.mem_cons] at hc
    rcases hc with rfl | rfl | hc
    · decide
    · decide
    · exact Integer.visible_of_isDigit (digits_toDigits _ c hc)

/-- A numeral is written without blanks and quotes. -/
theorem Written.visible (h : Written cs n) : ∀ c ∈ cs, Text.isBlank c = false ∧ c ≠ '"' := by
  intro c hc
  cases h with
  | whole hws hne hrest =>
    rcases List.mem_append.1 hc with hc | hc
    · exact Integer.visible_of_isDigit (hws c hc)
    · exact hrest.visible c hc
  | fraction hws hne hfs hrest =>
    simp only [List.mem_append, List.mem_cons] at hc
    rcases hc with hc | rfl | hc | hc
    · exact Integer.visible_of_isDigit (hws c hc)
    · decide
    · exact Integer.visible_of_isDigit (hfs c hc)
    · exact hrest.visible c hc

/-! ## Numerals in JSON -/

/-- Digits with a point after the first of them, if more follow. -/
theorem written_mantissa {d : Char} (hcs : Digits (d :: cs)) (hrest : WrittenExponent rest e) :
    Written ((if (d :: cs).length ≤ 1 then d :: cs else (d :: cs).take 1 ++ '.' :: (d :: cs).drop 1) ++ rest)
      ⟨digitValue (d :: cs), e - cs.length⟩ := by
  cases cs with
  | nil => simpa using Written.whole hcs (by simp) hrest
  | cons c cs =>
    have hfirst : Digits [d] := fun x hx => hcs x (by simp_all)
    have hwritten := Written.fraction hfirst (by simp) (fun x hx => hcs x (List.mem_cons_of_mem _ hx)) hrest
    simpa using hwritten

/-- A numeral is written as one that is rounded to the same double. -/
theorem render_written (n : Numeral) : ∃ m, Written (n.render json) m ∧ m.nearest = n.nearest := by
  have hdigits := digits_toDigits n.digits
  have hvalue := digitValue_toDigits n.digits
  have hne : Nat.toDigits 10 n.digits ≠ [] := Nat.toDigits_ne_nil
  have hzero : Digits ['0'] := digits_zeros 1
  unfold Numeral.render
  generalize Nat.toDigits 10 n.digits = ds at hdigits hvalue hne
  dsimp only
  generalize hpoint : n.exponent + (ds.length : Int) = point
  by_cases hpositional : json.positional (point - 1) = true
  · rw [if_pos hpositional]
    by_cases hbelow : point ≤ 0
    · -- zeros between the point and the first digit
      rw [if_pos hbelow]
      refine ⟨n, ?_, rfl⟩
      have hwritten := Written.fraction hzero (by decide) ((digits_zeros (-point).toNat).append hdigits) .absent
      have hall : digitValue (['0'] ++ (zeros (-point).toNat ++ ds)) = n.digits := by
        rw [← List.append_assoc]
        exact (digitValue_zeros_append ((-point).toNat + 1) ds).trans hvalue
      have hexponent : (0 : Int) - (zeros (-point).toNat ++ ds).length = n.exponent := by
        simp [zeros]
        omega
      rw [hall, hexponent] at hwritten
      simpa using hwritten
    · rw [if_neg hbelow]
      by_cases hwhole : 0 ≤ n.exponent
      · -- zeros after the last digit, one of them after the point
        rw [if_pos hwhole]
        refine ⟨⟨n.digits * 10 ^ (n.exponent.toNat + 1), -1⟩, ?_, ?_⟩
        · have hwritten :=
            Written.fraction (hdigits.append (digits_zeros n.exponent.toNat)) (by simp [hne]) hzero .absent
          have hall : ds ++ zeros n.exponent.toNat ++ ['0'] = ds ++ zeros (n.exponent.toNat + 1) := by
            simp [zeros, List.replicate_succ']
          rw [hall, digitValue_append_zeros, hvalue] at hwritten
          simpa [json] using hwritten
        · unfold Numeral.nearest
          rw [nearestDecimal_mul_pow]
          congr 1
          push_cast
          omega
      · -- the point is between two digits
        rw [if_neg hwhole]
        refine ⟨n, ?_, rfl⟩
        have htake : ds.take point.toNat ≠ [] := by
          simp only [ne_eq, List.take_eq_nil_iff, not_or]
          exact ⟨by omega, hne⟩
        have hfront : Digits (ds.take point.toNat) := fun c hc => hdigits c (List.mem_of_mem_take hc)
        have hrest : Digits (ds.drop point.toNat) := fun c hc => hdigits c (List.mem_of_mem_drop hc)
        have hwritten := Written.fraction hfront htake hrest .absent
        have hexponent : (0 : Int) - (ds.drop point.toNat).length = n.exponent := by
          rw [List.length_drop]
          omega
        rw [List.take_append_drop, hvalue, hexponent] at hwritten
        simpa using hwritten
  · rw [if_neg hpositional]
    obtain ⟨d, cs, rfl⟩ := List.exists_cons_of_ne_nil hne
    have hexponent : point - 1 - (cs.length : Int) = n.exponent := by
      rw [List.length_cons] at hpoint
      omega
    have hrest : WrittenExponent
        ('e' :: ((if point - 1 < 0 then ['-'] else json.plus) ++ Nat.toDigits 10 (point - 1).natAbs)) (point - 1) := by
      split
      · exact .negative ‹_›
      · exact .positive (not_lt.1 ‹_›)
    have hwritten := written_mantissa hdigits hrest
    rw [hvalue, hexponent] at hwritten
    exact ⟨n, by simpa using hwritten, rfl⟩

/-! ## Doubles in JSON -/

/-- A double is its sign and its magnitude. -/
theorem make_self (d : Double) : make d.negative d.magnitude = d := by
  obtain ⟨bits⟩ := d
  have hbits := bits.toNat_lt
  unfold make negative magnitude
  congr 1
  apply UInt64.toNat_inj.1
  rw [UInt64.toNat_ofNat']
  by_cases hnegative : 0x8000000000000000 ≤ bits.toNat
  · simp only [hnegative, decide_true, if_true]
    omega
  · simp only [hnegative, decide_false, Bool.false_eq_true, if_false]
    omega

theorem takeSign_digit {c : Char} (hc : c.isDigit = true) : takeSign (c :: cs) = (false, c :: cs) := by
  have hplus : c ≠ '+' := by
    rintro rfl
    exact absurd hc (by decide)
  have hminus : c ≠ '-' := by
    rintro rfl
    exact absurd hc (by decide)
  unfold takeSign
  split
  · simp_all
  · simp_all
  · rfl

/-- What is written without its sign is a numeral that is rounded to the magnitude. -/
theorem magnitude_written (hfinite : d.isFinite = true) :
    ∃ n, Written (if d.magnitude = 0 then '0' :: json.whole else (shortest d.magnitude).render json) n ∧
      n.nearest = d.magnitude := by
  by_cases hzero : d.magnitude = 0
  · have hdigits : Digits ['0'] := digits_zeros 1
    have hwritten := Written.fraction hdigits (by simp) hdigits .absent
    rw [if_pos hzero, hzero]
    exact ⟨_, hwritten, by decide⟩
  · rw [if_neg hzero]
    obtain ⟨n, hwritten, hnearest⟩ := render_written (shortest d.magnitude)
    refine ⟨n, hwritten, hnearest.trans ?_⟩
    exact nearest_shortest (Nat.pos_of_ne_zero hzero) (of_decide_eq_true hfinite)

/-- A finite double is read back from its text, with its sign. -/
theorem ofText_finiteText (hfinite : d.isFinite = true) :
    ofText (String.ofList (finiteText json d)) = .ok d := by
  obtain ⟨n, hwritten, hnearest⟩ := magnitude_written hfinite
  unfold finiteText
  dsimp only
  generalize (if d.magnitude = 0 then '0' :: json.whole else (shortest d.magnitude).render json) = body at hwritten
  have hnumeral := hwritten.numeralOf
  have hself := make_self d
  unfold ofText
  rw [String.toList_ofList]
  cases hsign : d.negative with
  | true =>
    rw [hsign] at hself
    simp [takeSign, hnumeral, hnearest, hself]
  | false =>
    rw [hsign] at hself
    obtain ⟨c, tail, rfl, hc⟩ := hwritten.head
    simp [takeSign_digit hc, hnumeral, hnearest, hself]

/-- The text of a finite double has no blanks and quotes. -/
theorem visible_finiteText (hfinite : d.isFinite = true) :
    ∀ c ∈ finiteText json d, Text.isBlank c = false ∧ c ≠ '"' := by
  obtain ⟨n, hwritten, -⟩ := magnitude_written hfinite
  unfold finiteText
  dsimp only
  intro c hc
  split at hc
  · rcases List.mem_cons.1 hc with rfl | hc
    · decide
    · exact hwritten.visible c hc
  · exact hwritten.visible c hc

end FunctionWorker.Double
