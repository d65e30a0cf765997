/-
The octets of a header. Octets and the numbers they can hold correspond to each other, most significant octet
first, and so do headers and the eight octets that are accepted for one: what is written for a header is read as
that header, and what is read as a header is what is written for it. Other octets are refused for the number that
stands in the place of the kind.
-/
import FunctionWorker.Frame.Header
import Mathlib.Data.Nat.Digits.Defs
import Mathlib.Data.Set.Function
import Mathlib.Tactic

namespace FunctionWorker.Frame

/-! ## Kinds -/

namespace Kind

/-- The number of a kind tells that kind and no other. -/
theorem ofWord?_eq_some_iff {word : UInt16} {kind : Kind} : ofWord? word = some kind ↔ kind.toWord = word := by
  cases kind
  unfold ofWord? toWord
  rw [ite_eq_left_iff, eq_comm]
  simp only [reduceCtorEq, imp_false, not_not]

theorem ofWord?_eq_none_iff {word : UInt16} : ofWord? word = none ↔ ∀ kind : Kind, kind.toWord ≠ word := by
  simp only [Option.eq_none_iff_forall_ne_some, ne_eq, ofWord?_eq_some_iff]

end Kind

namespace Header

/-! ## Numbers -/

@[simp] theorem bigEndian_length : ∀ width n, (bigEndian width n).length = width
  | 0, _ => rfl
  | width + 1, n => by rw [bigEndian, List.length_cons, bigEndian_length width]

/-- A number is read back from its last octets, whatever the ones before have come to. -/
theorem foldl_bigEndian (n : Nat) : ∀ width acc, (bigEndian width n).foldl (fun n o => 256 * n + o.toNat) acc =
    acc * 256 ^ width + n % 256 ^ width
  | 0, acc => by simp only [bigEndian, List.foldl_nil, pow_zero, mul_one, Nat.mod_one, add_zero]
  | width + 1, acc => by
    have hoctet : (UInt8.ofNat (n / 256 ^ width % 256)).toNat = n / 256 ^ width % 256 := by
      rw [UInt8.toNat_ofNat']
      omega
    rw [bigEndian, List.foldl_cons, foldl_bigEndian n width]
    show (256 * acc + (UInt8.ofNat (n / 256 ^ width % 256)).toNat) * 256 ^ width + _ = _
    rw [hoctet, pow_succ, Nat.mod_mul]
    ring

theorem ofBigEndian_bigEndian {width n : Nat} (h : n < 256 ^ width) : ofBigEndian (bigEndian width n) = n := by
  unfold ofBigEndian
  rw [foldl_bigEndian, Nat.zero_mul, Nat.zero_add, Nat.mod_eq_of_lt h]

/-- The octets from the last to the first are the digits of their number. -/
theorem ofBigEndian_eq_ofDigits (b : Bytes) : ofBigEndian b = Nat.ofDigits 256 (b.reverse.map UInt8.toNat) := by
  unfold ofBigEndian
  rw [Nat.ofDigits_eq_foldr, List.foldr_map, List.foldr_reverse]
  congr 1
  funext n o
  exact Nat.add_comm ..

theorem digits_lt (b : Bytes) : ∀ d ∈ b.map UInt8.toNat, d < 256 := by
  intro d hd
  obtain ⟨o, -, rfl⟩ := List.mem_map.1 hd
  exact o.toNat_lt

theorem ofBigEndian_lt (b : Bytes) : ofBigEndian b < 256 ^ b.length := by
  have hlt := Nat.ofDigits_lt_base_pow_length (by norm_num : 1 < 256) (digits_lt b.reverse)
  rwa [← ofBigEndian_eq_ofDigits, List.length_map, List.length_reverse] at hlt

/-- Different octets, if they are as many, have different numbers. -/
theorem ofBigEndian_inj {b c : Bytes} (hlength : b.length = c.length) (h : ofBigEndian b = ofBigEndian c) : b = c := by
  rw [ofBigEndian_eq_ofDigits, ofBigEndian_eq_ofDigits] at h
  have hlengths : (b.reverse.map UInt8.toNat).length = (c.reverse.map UInt8.toNat).length := by
    simp only [List.length_map, List.length_reverse, hlength]
  have hdigits := Nat.ofDigits_inj_of_len_eq (by norm_num : 1 < 256) hlengths (digits_lt _) (digits_lt _) h
  have hoctets : Function.Injective (List.map UInt8.toNat) := List.map_injective_iff.2 fun _ _ => UInt8.toNat_inj.1
  exact List.reverse_injective (hoctets hdigits)

/-- Octets are what is written for their number. -/
theorem bigEndian_ofBigEndian (b : Bytes) : bigEndian b.length (ofBigEndian b) = b :=
  ofBigEndian_inj (bigEndian_length ..) (ofBigEndian_bigEndian (ofBigEndian_lt b))

/-- Nothing is lost of octets when their number is kept in a word that has their width. -/
theorem bigEndian_mod {b : Bytes} {width : Nat} (hb : b.length = width) :
    bigEndian width (ofBigEndian b % 256 ^ width) = b := by
  subst hb
  rw [Nat.mod_eq_of_lt (ofBigEndian_lt b), bigEndian_ofBigEndian]

/-! ## What is written is read -/

@[simp] theorem encode_length (h : Header) : h.encode.length = headerSize := by
  simp only [encode, List.length_append, bigEndian_length, headerSize]

/-- Runs of octets as long as the fields are found in the places of the fields. -/
theorem fields_append {version word length : Bytes} (hversion : version.length = 2) (hword : word.length = 2)
    (hlength : length.length = 4) :
    (version ++ word ++ length).take 2 = version ∧ ((version ++ word ++ length).drop 2).take 2 = word ∧
      ((version ++ word ++ length).drop 4).take 4 = length := by
  refine ⟨?_, ?_, ?_⟩
  · rw [List.append_assoc]
    exact List.take_left' hversion
  · rw [List.append_assoc, List.drop_left' hversion]
    exact List.take_left' hword
  · rw [List.drop_left' (by rw [List.length_append, hversion, hword])]
    exact List.take_of_length_le hlength.le

/-- A header is read back as it was written. -/
theorem decode_encode (h : Header) : decode h.encode = .ok h := by
  obtain ⟨hfirst, hsecond, hthird⟩ := fields_append (bigEndian_length 2 h.version.toNat)
    (bigEndian_length 2 h.kind.toWord.toNat) (bigEndian_length 4 h.length.toNat)
  have hversion : ofBigEndian (bigEndian 2 h.version.toNat) = h.version.toNat :=
    ofBigEndian_bigEndian h.version.toNat_lt
  have hword : ofBigEndian (bigEndian 2 h.kind.toWord.toNat) = h.kind.toWord.toNat :=
    ofBigEndian_bigEndian h.kind.toWord.toNat_lt
  have hlength : ofBigEndian (bigEndian 4 h.length.toNat) = h.length.toNat := ofBigEndian_bigEndian h.length.toNat_lt
  have hkind : Kind.ofWord? h.kind.toWord = some h.kind := Kind.ofWord?_eq_some_iff.2 rfl
  unfold decode encode
  simp only [hfirst, hsecond, hthird, hversion, hword, hlength, UInt16.ofNat_toNat, UInt32.ofNat_toNat, hkind]

/-! ## What is read is written -/

variable {h : Header} {b : Bytes}

/-- The octets of a header are those of its three fields. -/
theorem append_fields (hb : b.length = headerSize) : b.take 2 ++ (b.drop 2).take 2 ++ (b.drop 4).take 4 = b := by
  have hlast : (b.drop 4).take 4 = (b.drop 2).drop 2 := by
    rw [List.drop_drop]
    exact List.take_of_length_le (by rw [List.length_drop, hb]; rfl)
  rw [hlast, List.append_assoc, List.take_append_drop, List.take_append_drop]

/-- The fields of a header are the numbers in their places. -/
theorem fields_of_decode (hread : decode b = .ok h) :
    h.version = UInt16.ofNat (ofBigEndian (b.take 2)) ∧
    h.kind.toWord = UInt16.ofNat (ofBigEndian ((b.drop 2).take 2)) ∧
    h.length = UInt32.ofNat (ofBigEndian ((b.drop 4).take 4)) := by
  unfold decode at hread
  dsimp only at hread
  split at hread
  · cases hread
  · rename_i kind hkind
    cases hread
    exact ⟨rfl, Kind.ofWord?_eq_some_iff.1 hkind, rfl⟩

/-- What is read as a header is what is written for it. -/
theorem encode_of_decode (hb : b.length = headerSize) (hread : decode b = .ok h) : h.encode = b := by
  have hversion : bigEndian 2 (UInt16.ofNat (ofBigEndian (b.take 2))).toNat = b.take 2 :=
    bigEndian_mod (by rw [List.length_take, hb]; rfl)
  have hword : bigEndian 2 (UInt16.ofNat (ofBigEndian ((b.drop 2).take 2))).toNat = (b.drop 2).take 2 :=
    bigEndian_mod (by rw [List.length_take, List.length_drop, hb]; rfl)
  have hlength : bigEndian 4 (UInt32.ofNat (ofBigEndian ((b.drop 4).take 4))).toNat = (b.drop 4).take 4 :=
    bigEndian_mod (by rw [List.length_take, List.length_drop, hb]; rfl)
  obtain ⟨hv, hk, hl⟩ := fields_of_decode hread
  unfold encode
  rw [hv, hk, hl, hversion, hword, hlength, append_fields hb]

theorem decode_eq_ok_iff (hb : b.length = headerSize) : decode b = .ok h ↔ h.encode = b := by
  constructor
  · exact encode_of_decode hb
  · rintro rfl
    exact h.decode_encode

/-- Octets are refused for the number in the place of the kind, and for nothing else. -/
theorem decode_eq_error_iff {e : ProtocolError} : decode b = .error e ↔
    (∀ kind : Kind, kind.toWord ≠ UInt16.ofNat (ofBigEndian ((b.drop 2).take 2))) ∧
      e = .unknownFrameKind (UInt16.ofNat (ofBigEndian ((b.drop 2).take 2))) := by
  rw [← Kind.ofWord?_eq_none_iff]
  unfold decode
  dsimp only
  split
  · rename_i hnone
    simp only [hnone, true_and, Except.error.injEq, eq_comm]
  · rename_i kind hsome
    simp only [hsome, reduceCtorEq, false_and]

/-! ## Octet by octet -/

/-- Eight octets and what stands in them: a version, the number of a kind and the length of a payload, each most
significant octet first. -/
inductive Tells : Bytes → UInt16 → UInt16 → UInt32 → Prop
  | octets {v₁ v₀ k₁ k₀ l₃ l₂ l₁ l₀ : UInt8} {version word : UInt16} {length : UInt32}
      (version_eq : version.toNat = 256 * v₁.toNat + v₀.toNat)
      (word_eq : word.toNat = 256 * k₁.toNat + k₀.toNat)
      (length_eq : length.toNat = 256 ^ 3 * l₃.toNat + 256 ^ 2 * l₂.toNat + 256 * l₁.toNat + l₀.toNat) :
      Tells [v₁, v₀, k₁, k₀, l₃, l₂, l₁, l₀] version word length

theorem toNat_two (o₁ o₀ : UInt8) : (UInt16.ofNat (ofBigEndian [o₁, o₀])).toNat = 256 * o₁.toNat + o₀.toNat := by
  have h₁ := o₁.toNat_lt
  have h₀ := o₀.toNat_lt
  show (256 * (256 * 0 + o₁.toNat) + o₀.toNat) % 2 ^ 16 = _
  omega

theorem toNat_four (o₃ o₂ o₁ o₀ : UInt8) : (UInt32.ofNat (ofBigEndian [o₃, o₂, o₁, o₀])).toNat =
    256 ^ 3 * o₃.toNat + 256 ^ 2 * o₂.toNat + 256 * o₁.toNat + o₀.toNat := by
  have h₃ := o₃.toNat_lt
  have h₂ := o₂.toNat_lt
  have h₁ := o₁.toNat_lt
  have h₀ := o₀.toNat_lt
  show (256 * (256 * (256 * (256 * 0 + o₃.toNat) + o₂.toNat) + o₁.toNat) + o₀.toNat) % 2 ^ 32 = _
  omega

/-- Whatever eight octets there are, each field is the number that stands in its place. -/
theorem tells_fields (hb : b.length = headerSize) : Tells b (UInt16.ofNat (ofBigEndian (b.take 2)))
    (UInt16.ofNat (ofBigEndian ((b.drop 2).take 2))) (UInt32.ofNat (ofBigEndian ((b.drop 4).take 4))) := by
  match b, hb with
  | [v₁, v₀, k₁, k₀, l₃, l₂, l₁, l₀], _ =>
    exact .octets (toNat_two v₁ v₀) (toNat_two k₁ k₀) (toNat_four l₃ l₂ l₁ l₀)

/-- What stands in the octets that are written for a header. -/
theorem tells_encode (h : Header) : Tells h.encode h.version h.kind.toWord h.length := by
  obtain ⟨hversion, hword, hlength⟩ := fields_of_decode h.decode_encode
  rw [hversion, hword, hlength]
  exact tells_fields h.encode_length

/-! ## Headers and octets -/

/-- The octets that are accepted for a header. -/
def Accepted : Set Bytes := {b | b.length = headerSize ∧ ∃ h, decode b = .ok h}

/-- Different headers are written in different octets. -/
theorem encode_injective : Function.Injective encode := by
  intro h h' halike
  have hread := h.decode_encode
  rw [halike, h'.decode_encode] at hread
  cases hread
  rfl

/-- The octets that are accepted are those that are written for some header. -/
theorem encode_bijOn : Set.BijOn encode Set.univ Accepted := by
  refine ⟨?mapsTo, encode_injective.injOn, ?surjOn⟩
  case mapsTo =>
    intro h _
    exact ⟨h.encode_length, h, h.decode_encode⟩
  case surjOn =>
    rintro b ⟨hb, h, hread⟩
    exact ⟨h, trivial, encode_of_decode hb hread⟩

/-- Headers and the octets that are accepted for one correspond to each other. Each header is written field by
field and read back as it is; eight octets are refused just when the number in the place of the kind is that of
none, which the error then tells, and otherwise they are read as the header that is written so. -/
theorem octets_correspond :
    Set.BijOn encode Set.univ Accepted ∧
    (∀ h : Header, Tells h.encode h.version h.kind.toWord h.length ∧ decode h.encode = .ok h) ∧
    ∀ b : Bytes, b.length = headerSize → ∃ version word length, Tells b version word length ∧
      (∀ e, decode b = .error e ↔ (∀ kind : Kind, kind.toWord ≠ word) ∧ e = .unknownFrameKind word) ∧
      ∀ h, decode b = .ok h ↔ h.encode = b := by
  refine ⟨encode_bijOn, fun h => ⟨h.tells_encode, h.decode_encode⟩, ?_⟩
  intro b hb
  refine ⟨_, _, _, tells_fields hb, ?_, ?_⟩
  · intro e
    exact decode_eq_error_iff
  · intro h
    exact decode_eq_ok_iff hb

/-- A header whose octets all differ, and the same octets with the two of the kind exchanged. -/
theorem octets_correspond_exchanged :
    ([9, 8, 0, 1, 7, 6, 5, 4] : Bytes).length = headerSize ∧
    encode ⟨0x0908, .envelope, 0x07060504⟩ = [9, 8, 0, 1, 7, 6, 5, 4] ∧
    ([9, 8, 1, 0, 7, 6, 5, 4] : Bytes).length = headerSize ∧
    decode [9, 8, 1, 0, 7, 6, 5, 4] = .error (.unknownFrameKind 0x0100) := by
  obtain ⟨_, _, _, -, -, haccepted⟩ := octets_correspond.2.2 [9, 8, 0, 1, 7, 6, 5, 4] rfl
  obtain ⟨_, word, _, htells, hrefused, -⟩ := octets_correspond.2.2 [9, 8, 1, 0, 7, 6, 5, 4] rfl
  refine ⟨rfl, (haccepted _).1 (by decide), rfl, (hrefused _).2 ?_⟩
  cases htells with
  | octets _ word_eq _ =>
    have hword : word = 0x0100 := UInt16.toNat_inj.1 word_eq
    subst hword
    exact ⟨fun kind => by cases kind; decide, rfl⟩

end Header

end FunctionWorker.Frame
