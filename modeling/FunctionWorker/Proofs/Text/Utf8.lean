/-
The octets of a text: they are those of its characters in order, reading them gives the text back,
the octet `0xff` is never among them, and the first of them is no continuation octet. The last two
facts are what lets an archive tell a text in place from one that lies elsewhere.
-/
import FunctionWorker.Text.Utf8
import Mathlib.Tactic

namespace FunctionWorker.Text

theorem ofUtf8?_utf8 (s : String) : ofUtf8? (utf8 s) = some s := by
  unfold ofUtf8? utf8
  have h : (⟨s.toUTF8.data.toList.toArray⟩ : ByteArray) = s.toByteArray := by
    rw [Array.toArray_toList]; rfl
  rw [h]
  unfold String.fromUTF8?
  rw [dif_pos s.isValidUTF8]
  rfl

theorem ofUtf8_utf8 (s : String) : ofUtf8 (utf8 s) = .ok s := by
  have h : String.fromUTF8? ⟨(utf8 s).toArray⟩ = some s := ofUtf8?_utf8 s
  unfold ofUtf8
  rw [h]

/-- Octets that are read as a text are those of the text. -/
theorem utf8_of_ofUtf8 {bytes : Bytes} {s : String} (h : ofUtf8 bytes = .ok s) : utf8 s = bytes := by
  unfold ofUtf8 at h
  split at h
  · rename_i t hread
    cases h
    unfold String.fromUTF8? at hread
    split at hread
    · cases hread
      rfl
    · cases hread
  · cases h

/-- The octets of characters in order. -/
def encode (cs : List Char) : Bytes := cs.flatMap String.utf8EncodeChar

/-- The octets of a text are those of its characters. -/
theorem utf8_eq_encode (s : String) : utf8 s = encode s.toList := by
  unfold utf8 encode
  rw [String.toUTF8_eq_toByteArray, ← String.utf8Encode_toList]
  simp [List.utf8Encode]

theorem utf8_ofList (cs : List Char) : utf8 (String.ofList cs) = encode cs := by
  rw [utf8_eq_encode, String.toList_ofList]

@[simp]
theorem encode_nil : encode [] = [] := rfl

theorem encode_cons (c : Char) (cs : List Char) : encode (c :: cs) = String.utf8EncodeChar c ++ encode cs :=
  List.flatMap_cons ..

@[simp]
theorem encode_append (cs ds : List Char) : encode (cs ++ ds) = encode cs ++ encode ds := List.flatMap_append ..

/-! ## Octets of a character -/

/-- A character of ASCII is written as one octet. -/
theorem utf8EncodeChar_ascii {c : Char} (h : c.toNat < 0x80) : String.utf8EncodeChar c = [UInt8.ofNat c.toNat] :=
  if_pos (Nat.le_of_lt_succ h)

/-- The octets of other characters are not those of ASCII. -/
theorem le_of_mem_utf8EncodeChar {c : Char} {b : UInt8} (hc : 0x80 ≤ c.toNat) (h : b ∈ String.utf8EncodeChar c) :
    0x80 ≤ b.toNat := by
  have hval : c.val.toNat = c.toNat := rfl
  unfold String.utf8EncodeChar at h
  dsimp only at h
  split_ifs at h <;> simp only [List.mem_cons, List.not_mem_nil, or_false] at h <;>
    rcases h with rfl | rfl | rfl | rfl <;> simp only [UInt8.toNat_ofNat'] <;> omega


theorem toNat_char_lt (c : Char) : c.val.toNat < 0x110000 := by
  have h := c.valid
  simp only [UInt32.isValidChar, Nat.isValidChar] at h
  omega

/-- An octet of a character leaves a bit unset. -/
theorem ne_ff_of_mem_utf8EncodeChar {c : Char} {b : UInt8} (h : b ∈ String.utf8EncodeChar c) :
    b ≠ 0xff := by
  have hc := toNat_char_lt c
  suffices b.toNat < 0xff by rintro rfl; exact absurd this (by decide)
  unfold String.utf8EncodeChar at h
  dsimp only at h
  split_ifs at h <;> simp only [List.mem_cons, List.not_mem_nil, or_false] at h <;>
    rcases h with rfl | rfl | rfl | rfl <;> simp only [UInt8.toNat_ofNat'] <;> omega

/-- The first octet of a character tells how many there are, which no continuation octet does. -/
theorem head_utf8EncodeChar (c : Char) :
    ∃ b rest, String.utf8EncodeChar c = b :: rest ∧ (b.toNat < 0x80 ∨ 0xc0 ≤ b.toNat) := by
  have hc := toNat_char_lt c
  unfold String.utf8EncodeChar
  dsimp only
  split_ifs <;> refine ⟨_, _, rfl, ?_⟩ <;> simp only [UInt8.toNat_ofNat'] <;> omega

/-- The two top bits of an octet. -/
theorem and_c0_ne {b : UInt8} (h : b.toNat < 0x80 ∨ 0xc0 ≤ b.toNat) : b &&& 0xc0 ≠ 0x80 := by
  have all : ∀ n < 256, n < 0x80 ∨ 0xc0 ≤ n → UInt8.ofNat n &&& 0xc0 ≠ 0x80 := by
    decide +kernel
  have := all b.toNat b.toNat_lt h
  rwa [UInt8.ofNat_toNat] at this

/-! ## Octets of a text -/

/-- Every character takes an octet at least. -/
theorem length_le_encode (cs : List Char) : cs.length ≤ (encode cs).length := by
  induction cs with
  | nil => exact Nat.le_refl _
  | cons c cs ih =>
    obtain ⟨b, rest, hc, -⟩ := head_utf8EncodeChar c
    rw [encode_cons, hc, List.cons_append, List.length_cons, List.length_cons, List.length_append]
    omega

theorem ne_ff_of_mem_utf8 {s : String} {b : UInt8} (h : b ∈ utf8 s) : b ≠ 0xff := by
  rw [utf8_eq_encode, encode, List.mem_flatMap] at h
  obtain ⟨c, -, hb⟩ := h
  exact ne_ff_of_mem_utf8EncodeChar hb

/-- A text does not start with a continuation octet. -/
theorem head_utf8_ne {s : String} {b : UInt8} {rest : Bytes} (h : utf8 s = b :: rest) :
    b &&& 0xc0 ≠ 0x80 := by
  rw [utf8_eq_encode] at h
  cases hs : s.toList with
  | nil => rw [hs] at h; cases h
  | cons c cs =>
    obtain ⟨b', rest', hc, hb⟩ := head_utf8EncodeChar c
    rw [hs, encode_cons, hc, List.cons_append] at h
    obtain ⟨rfl, -⟩ := List.cons.inj h
    exact and_c0_ne hb

end FunctionWorker.Text
