/-
Strings in JSON texts. A character is written as itself or in one of two forms that start with a backslash, so
the quote that closes a string is the first one that is reached, and what stands before it is read back as the
characters that were written.
-/
import FunctionWorker.Json.Printer
import FunctionWorker.Json.Reader
import FunctionWorker.Proofs.Text.Utf8

namespace FunctionWorker.Json

open Raw (octet)

variable {c : Char} {bytes body rest after : Bytes}

/-! ## Characters -/

/-- How a character is written in a string. -/
inductive Written (c : Char) : Bytes → Prop where
  | short {e : UInt8} (known : Raw.isShortEscape e = true) (notUnit : e ≠ octet 'u')
      (stands : String.utf8EncodeChar c = [Escaped.shortEscape e]) : Written c [octet '\\', e]
  | unit {h l : UInt8} (high : Raw.isHex h = true) (low : Raw.isHex l = true)
      (stands : Escaped.unitValue (octet '0') (octet '0') h l = c.toNat) (control : c.toNat < 0x20) :
      Written c [octet '\\', octet 'u', octet '0', octet '0', h, l]
  | plain (visible : ∀ b ∈ String.utf8EncodeChar c, 0x20 ≤ b ∧ b ≠ octet '"' ∧ b ≠ octet '\\') :
      Written c (String.utf8EncodeChar c)

/-- The digits that a control character is written with say which it is. -/
theorem control_digits : ∀ n < 0x20,
    (Text.hexDigit (n / 16)).toNat < 0x80 ∧ (Text.hexDigit (n % 16)).toNat < 0x80 ∧
    Raw.isHex (octet (Text.hexDigit (n / 16))) = true ∧ Raw.isHex (octet (Text.hexDigit (n % 16))) = true ∧
    Escaped.unitValue (octet '0') (octet '0') (octet (Text.hexDigit (n / 16))) (octet (Text.hexDigit (n % 16))) = n := by
  decide

/-- A character that is neither a control character nor a quote nor a backslash has none of their octets. -/
theorem visible_of_plain (hcontrol : 0x20 ≤ c.toNat) (hquote : c ≠ '"') (hescape : c ≠ '\\') {b : UInt8}
    (h : b ∈ String.utf8EncodeChar c) : 0x20 ≤ b ∧ b ≠ octet '"' ∧ b ≠ octet '\\' := by
  have hoctets : (octet '"').toNat = 0x22 ∧ (octet '\\').toNat = 0x5c := by decide
  rw [UInt8.le_iff_toNat_le, ne_eq, ne_eq, ← UInt8.toNat_inj, ← UInt8.toNat_inj, hoctets.1, hoctets.2]
  have hlow : (0x20 : UInt8).toNat = 0x20 := rfl
  rw [hlow]
  by_cases hascii : c.toNat < 0x80
  · rw [Text.utf8EncodeChar_ascii hascii, List.mem_singleton] at h
    have hb : b.toNat = c.toNat := by
      rw [h, UInt8.toNat_ofNat']
      omega
    have hne (d : Char) (hd : c ≠ d) : c.toNat ≠ d.toNat := fun heq => hd (Char.toNat_inj.1 heq)
    have hq := hne '"' hquote
    have hs := hne '\\' hescape
    simp only [Char.reduceToNat] at hq hs
    omega
  · have := Text.le_of_mem_utf8EncodeChar (Nat.le_of_not_lt hascii) h
    omega

theorem written_escape (c : Char) : Written c (Text.encode (escape c)) := by
  unfold escape
  split
  case h_8 hquote hescape _ _ _ _ _ =>
    split
    · rename_i hcontrol
      obtain ⟨hh, hl, high, low, stands⟩ := control_digits c.toNat hcontrol
      simp only [Text.encode_cons, Text.encode_nil, Text.utf8EncodeChar_ascii hh, Text.utf8EncodeChar_ascii hl]
      exact .unit high low stands hcontrol
    · rename_i hcontrol
      rw [Text.encode_cons, Text.encode_nil, List.append_nil]
      exact .plain fun b hb => visible_of_plain (Nat.le_of_not_lt hcontrol) hquote hescape hb
  all_goals exact .short (by decide) (by decide) (by decide)

/-! ## Reading -/

theorem stringBody_plain (h : ∀ b ∈ bytes, 0x20 ≤ b ∧ b ≠ octet '"' ∧ b ≠ octet '\\')
    (hrest : Raw.stringBody rest = some (body, after)) :
    Raw.stringBody (bytes ++ rest) = some (bytes ++ body, after) := by
  induction bytes with
  | nil => exact hrest
  | cons b bytes ih =>
    obtain ⟨hcontrol, hquote, hescape⟩ := h b (List.mem_cons_self ..)
    rw [List.cons_append, Raw.stringBody.eq_def]
    simp only [hquote, hescape, if_false, if_neg (UInt8.not_lt.2 hcontrol)]
    rw [ih fun x hx => h x (List.mem_cons_of_mem _ hx)]
    rfl

/-- A written character is passed over when the end of the string is looked for. -/
theorem Written.stringBody (h : Written c bytes) (hrest : Raw.stringBody rest = some (body, after)) :
    Raw.stringBody (bytes ++ rest) = some (bytes ++ body, after) := by
  cases h with
  | short known notUnit stands =>
    simp only [List.cons_append, List.nil_append]
    rw [Raw.stringBody.eq_def]
    simp [show octet '\\' ≠ octet '"' by decide, known, hrest]
  | unit high low stands control =>
    simp only [List.cons_append, List.nil_append]
    rw [Raw.stringBody.eq_def]
    simp [show octet '\\' ≠ octet '"' by decide, show Raw.isShortEscape (octet 'u') = false by decide,
      show Raw.isHex (octet '0') = true by decide, high, low, hrest]
  | plain visible => exact stringBody_plain visible hrest

theorem octets_plain (h : ∀ b ∈ bytes, b ≠ octet '\\') (hrest : Escaped.octets rest = some after) :
    Escaped.octets (bytes ++ rest) = some (bytes ++ after) := by
  induction bytes with
  | nil => exact hrest
  | cons b bytes ih =>
    rw [List.cons_append, Escaped.octets.eq_def]
    simp only [h b (List.mem_cons_self ..), if_false]
    rw [ih fun x hx => h x (List.mem_cons_of_mem _ hx)]
    rfl

/-- A written character is read back. -/
theorem Written.octets (h : Written c bytes) (hrest : Escaped.octets rest = some after) :
    Escaped.octets (bytes ++ rest) = some (String.utf8EncodeChar c ++ after) := by
  cases h with
  | short known notUnit stands =>
    simp only [List.cons_append, List.nil_append]
    rw [Escaped.octets.eq_def]
    simp [notUnit, hrest, stands]
  | unit high low stands control =>
    simp only [List.cons_append, List.nil_append]
    rw [Escaped.octets.eq_def]
    have hlow : ¬ 0xdc00 ≤ c.toNat := by omega
    have hhigh : ¬ 0xd800 ≤ c.toNat := by omega
    simp [stands, hlow, hhigh, hrest]
  | plain visible => exact octets_plain (fun b hb => (visible b hb).2.2) hrest

/-! ## Strings -/

/-- The octets of a string without its quotes. -/
def escaped (s : String) : Bytes := Text.encode (s.toList.flatMap escape)

theorem stringBody_escaped (s : String) (rest : Bytes) :
    Raw.stringBody (escaped s ++ octet '"' :: rest) = some (escaped s, rest) := by
  unfold escaped
  induction s.toList with
  | nil =>
    rw [List.flatMap_nil, Text.encode_nil, List.nil_append, Raw.stringBody.eq_def]
    rfl
  | cons c cs ih =>
    rw [List.flatMap_cons, Text.encode_append, List.append_assoc]
    exact (written_escape c).stringBody ih

/-- A string is read back as it was written. -/
theorem text?_escaped (s : String) : Escaped.text? (escaped s) = some s := by
  have hoctets (cs : List Char) : Escaped.octets (Text.encode (cs.flatMap escape)) = some (Text.encode cs) := by
    induction cs with
    | nil => rfl
    | cons c cs ih =>
      rw [List.flatMap_cons, Text.encode_append, Text.encode_cons]
      exact (written_escape c).octets ih
  unfold Escaped.text? escaped
  rw [hoctets, ← Text.utf8_eq_encode]
  exact Text.ofUtf8?_utf8 s

end FunctionWorker.Json
