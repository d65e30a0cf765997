/-
The arithmetic of archives: alignment, the words for numbers, distances and lengths and what is
read back from them, and where a run of octets stands in an archive.
-/
import FunctionWorker.Archive.Reader
import FunctionWorker.Archive.Writer
import Mathlib.Tactic

namespace FunctionWorker.Archive

/-! ## Alignment -/

theorem le_alignUp (n : Nat) {a : Nat} (ha : 0 < a) : n ≤ alignUp n a := by
  unfold alignUp
  have h := Nat.div_add_mod (n + a - 1) a
  have hm := Nat.mod_lt (n + a - 1) ha
  rw [Nat.mul_comm] at h
  omega

theorem alignUp_mod (n a : Nat) : alignUp n a % a = 0 := by
  unfold alignUp; exact Nat.mul_mod_left _ _

theorem one_le_alignmentOfFields : ∀ ls, 1 ≤ Layout.alignmentOfFields ls
  | [] => le_rfl
  | _ :: ls => by
    unfold Layout.alignmentOfFields
    exact le_trans (one_le_alignmentOfFields ls) (le_max_right _ _)

theorem one_le_alignmentOfVariants : ∀ vs, 1 ≤ Layout.alignmentOfVariants vs
  | [] => le_rfl
  | _ :: vs => by
    unfold Layout.alignmentOfVariants
    exact le_trans (one_le_alignmentOfVariants vs) (le_max_right _ _)

/-! ## Numbers -/

@[simp] theorem littleEndian_length : ∀ width n, (littleEndian width n).length = width
  | 0, _ => rfl
  | width + 1, n => by simp [littleEndian, littleEndian_length width]

theorem ofLittleEndian_littleEndian : ∀ {width n : Nat}, n < 256 ^ width →
    ofLittleEndian (littleEndian width n) = n
  | 0, n, h => by simp only [pow_zero] at h; simp only [littleEndian, ofLittleEndian]; omega
  | width + 1, n, h => by
    have hd : n / 256 < 256 ^ width := by
      apply Nat.div_lt_of_lt_mul
      rwa [pow_succ, Nat.mul_comm] at h
    simp only [littleEndian, ofLittleEndian]
    rw [ofLittleEndian_littleEndian hd, UInt8.toNat_ofNat']
    omega

/-- A distance of 31 bits and a sign is read back from its word. -/
theorem distanceOfWord_distanceWord {d : Int} (h₁ : -2 ^ 31 ≤ d) (h₂ : d < 2 ^ 31) :
    distanceOfWord (distanceWord d) = d := by
  unfold distanceOfWord distanceWord
  by_cases hd : 0 ≤ d
  · rw [Int.emod_eq_of_lt hd (by omega), if_pos (by omega)]
    omega
  · have he : d % 0x100000000 = d + 0x100000000 := by
      rw [← Int.add_emod_right, Int.emod_eq_of_lt (by omega) (by omega)]
    rw [he, if_neg (by omega)]
    omega

theorem distanceWord_lt (d : Int) : distanceWord d < 256 ^ 4 := by
  unfold distanceWord
  have := Int.emod_lt_of_pos d (show (0 : Int) < 0x100000000 by norm_num)
  have := Int.emod_nonneg d (show (0x100000000 : Int) ≠ 0 by norm_num)
  omega

theorem lengthOfWord_lengthWord (n : Nat) : lengthOfWord (lengthWord n) = n := by
  unfold lengthOfWord lengthWord; omega

theorem lengthWord_lt {n : Nat} (h : n < 2 ^ 30) : lengthWord n < 256 ^ 4 := by
  unfold lengthWord; omega

/-- The first octet of a length word is the mark of a text elsewhere. -/
theorem lengthWord_mark (n : Nat) : UInt8.ofNat (lengthWord n % 256) &&& 0xc0 = 0x80 := by
  have all : ∀ k < 64, UInt8.ofNat (k + 128) &&& 0xc0 = 0x80 := by decide +kernel
  have hk : lengthWord n % 256 = n % 64 + 128 := by unfold lengthWord; omega
  rw [hk]
  exact all _ (Nat.mod_lt _ (by norm_num))

/-! ## Where octets stand -/

/-- The octets `b` stand at a position of an archive. -/
def Stands (archive : Bytes) (pos : Nat) (b : Bytes) : Prop :=
  ∃ front back, front.length = pos ∧ archive = front ++ b ++ back

variable {archive b c : Bytes} {pos : Nat}

theorem Stands.le (h : Stands archive pos b) : pos + b.length ≤ archive.length := by
  obtain ⟨front, back, rfl, rfl⟩ := h
  simp only [List.length_append]; omega

theorem Stands.slice (h : Stands archive pos b) : slice archive pos b.length = b := by
  obtain ⟨front, back, rfl, rfl⟩ := h
  unfold Archive.slice
  rw [List.append_assoc, List.drop_left, List.take_left]

theorem Stands.left (h : Stands archive pos (b ++ c)) : Stands archive pos b := by
  obtain ⟨front, back, hf, rfl⟩ := h
  exact ⟨front, c ++ back, hf, by simp only [List.append_assoc]⟩

theorem Stands.right (h : Stands archive pos (b ++ c)) : Stands archive (pos + b.length) c := by
  obtain ⟨front, back, hf, rfl⟩ := h
  exact ⟨front ++ b, back, by rw [List.length_append, hf], by simp only [List.append_assoc]⟩

/-- A number that stands at a position is read there. -/
theorem Stands.wordAt {size n : Nat} (h : Stands archive pos (littleEndian size n))
    (hn : n < 256 ^ size) : wordAt archive pos size = some n := by
  have hs := h.slice
  rw [littleEndian_length] at hs
  unfold Archive.wordAt
  simp only [hs, littleEndian_length, if_true, ofLittleEndian_littleEndian hn]

end FunctionWorker.Archive
