/-
Formats that add nothing: the data that are read of a layout are data of that layout, and a value that is taken
from them is written as these data again. With formats that lose nothing, values and data of a layout are the
same thing in two forms, and what an archive is read as is what its data say.
-/
import FunctionWorker.Proofs.Archive.Formats

namespace FunctionWorker.Archive

/-! ## Regular layouts -/

namespace Layout

mutual

/-- A layout whose words and whose items of lists take up octets. -/
def regular : Layout → Bool
  | .word size => decide (0 < size)
  | .bool | .text | .bytes => true
  | .list item => decide (0 < item.size) && item.regular
  | .record fields => regularFields fields
  | .choice variants => regularVariants variants

def regularFields : List Layout → Bool
  | [] => true
  | l :: ls => l.regular && regularFields ls

def regularVariants : List (List Layout) → Bool
  | [] => true
  | v :: vs => regularFields v && regularVariants vs

end

variable {l : Layout} {fields : List Layout} {variants : List (List Layout)}

theorem alignment_pos (h : l.regular = true) : 0 < l.alignment := by
  cases l with
  | word size => rw [regular, decide_eq_true_eq] at h; exact h
  | record fields => exact one_le_alignmentOfFields fields
  | choice variants => exact one_le_alignmentOfVariants variants
  | _ => simp only [alignment]; norm_num

theorem regular_of_mem (h : regularFields fields = true) (hl : l ∈ fields) : l.regular = true := by
  induction fields with
  | nil => cases hl
  | cons l' ls ih =>
    rw [regularFields, Bool.and_eq_true] at h
    rcases List.mem_cons.1 hl with rfl | hl
    · exact h.1
    · exact ih h.2 hl

theorem regularFields_of_mem (h : regularVariants variants = true) (hf : fields ∈ variants) :
    regularFields fields = true := by
  induction variants with
  | nil => cases hf
  | cons v vs ih =>
    rw [regularVariants, Bool.and_eq_true] at h
    rcases List.mem_cons.1 hf with rfl | hf
    · exact h.1
    · exact ih h.2 hf

end Layout

/-! ## What is read -/

theorem ofLittleEndian_lt : ∀ b : Bytes, ofLittleEndian b < 256 ^ b.length
  | [] => Nat.one_pos
  | o :: b => by
    have hb := ofLittleEndian_lt b
    have ho := o.toNat_lt
    rw [ofLittleEndian, List.length_cons, pow_succ']
    omega

/-- A number that is read is one of its size. -/
theorem wordAt_lt {archive : Bytes} {pos size n : Nat} (h : wordAt archive pos size = some n) : n < 256 ^ size := by
  unfold wordAt at h
  rw [Option.ite_none_right_eq_some] at h
  obtain ⟨hlength, heq⟩ := h
  cases heq
  have hlt := ofLittleEndian_lt (slice archive pos size)
  rwa [hlength] at hlt

variable {archive : Bytes}

/-- A layout of which only its own data are read. -/
def ReadsFitting (archive : Bytes) (l : Layout) : Prop :=
  ∀ {pos r n r'}, readNode archive l pos r = some (n, r') → Fits l n

theorem readItems_fits {item : Layout} (ih : ReadsFitting archive item) : ∀ {count pos : Nat} {r r' : Range}
    {ns : List Node}, readItems (readNode archive item) item.size count pos r = some (ns, r') → ∀ n ∈ ns, Fits item n
  | 0, _, _, _, _, h, n, hn => by
    cases h
    cases hn
  | count + 1, pos, r, r', ns, h, n, hn => by
    rw [readItems] at h
    split at h
    · cases h
    · rename_i first r₁ hfirst
      split at h
      · cases h
      · rename_i rest r₂ hrest
        cases h
        rcases List.mem_cons.1 hn with rfl | hn
        · exact ih hfirst
        · exact readItems_fits ih hrest n hn

theorem readFields_fits {fields : List Layout} (ih : ∀ l ∈ fields, ReadsFitting archive l) : ∀ {pos offset : Nat}
    {r r' : Range} {ns : List Node}, readFields archive fields pos offset r = some (ns, r') → FitFields fields ns := by
  induction fields with
  | nil =>
    intro pos offset r r' ns h
    rw [readFields] at h
    cases h
    trivial
  | cons l ls ihl =>
    intro pos offset r r' ns h
    rw [readFields] at h
    split at h
    · cases h
    · rename_i first r₁ hfirst
      split at h
      · cases h
      · rename_i rest r₂ hrest
        cases h
        exact ⟨ih l List.mem_cons_self hfirst, ihl (fun l' hl' => ih l' (List.mem_cons_of_mem _ hl')) hrest⟩

theorem readVariant_fits : ∀ {variants : List (List Layout)}, (∀ v ∈ variants, ∀ l ∈ v, ReadsFitting archive l) →
    ∀ {tag pos : Nat} {r r' : Range} {ns : List Node},
      readVariant archive variants tag pos r = some (ns, r') → FitVariant variants tag ns
  | [], _, _, _, _, _, _, h => by rw [readVariant] at h; cases h
  | v :: _, ih, 0, _, _, _, _, h => by
    rw [readVariant] at h
    exact readFields_fits (ih v List.mem_cons_self) h
  | _ :: vs, ih, tag + 1, _, _, _, _, h => by
    rw [readVariant] at h
    exact readVariant_fits (fun v hv => ih v (List.mem_cons_of_mem _ hv)) h

/-- Of a regular layout only its own data are read. -/
theorem readNode_fits (archive : Bytes) (l : Layout) (h : l.regular = true) : ReadsFitting archive l := by
  induction l using Layout.inductionOn with
  | word size =>
    intro pos r n r' hread
    rw [Layout.regular, decide_eq_true_eq] at h
    rw [readNode] at hread
    obtain ⟨w, hw, heq⟩ := Option.map_eq_some_iff.1 hread
    cases heq
    exact ⟨h, wordAt_lt hw⟩
  | bool =>
    intro pos r n r' hread
    rw [readNode] at hread
    split at hread <;> cases hread <;> trivial
  | text =>
    intro pos r n r' hread
    rw [readNode] at hread
    obtain ⟨⟨s, r₁⟩, -, heq⟩ := Option.map_eq_some_iff.1 hread
    cases heq
    trivial
  | bytes =>
    intro pos r n r' hread
    rw [readNode] at hread
    obtain ⟨⟨b, r₁⟩, -, heq⟩ := Option.map_eq_some_iff.1 hread
    cases heq
    trivial
  | list item ih =>
    intro pos r n r' hread
    rw [Layout.regular, Bool.and_eq_true, decide_eq_true_eq] at h
    rw [readNode] at hread
    split at hread
    · cases hread
    · obtain ⟨⟨ns, r₁⟩, hns, heq⟩ := Option.map_eq_some_iff.1 hread
      cases heq
      exact ⟨⟨h.1, Layout.alignment_pos h.2⟩, readItems_fits (ih h.2) hns⟩
  | record fields ih =>
    intro pos r n r' hread
    rw [Layout.regular] at h
    rw [readNode] at hread
    obtain ⟨⟨ns, r₁⟩, hns, heq⟩ := Option.map_eq_some_iff.1 hread
    cases heq
    exact readFields_fits (fun l hl => ih l hl (Layout.regular_of_mem h hl)) hns
  | choice variants ih =>
    intro pos r n r' hread
    rw [Layout.regular] at h
    rw [readNode] at hread
    split at hread
    · cases hread
    · rename_i tag htag
      obtain ⟨⟨ns, r₁⟩, hns, heq⟩ := Option.map_eq_some_iff.1 hread
      cases heq
      refine ⟨wordAt_lt htag, readVariant_fits (fun v hv l hl => ih v hv l hl ?_) hns⟩
      exact Layout.regular_of_mem (Layout.regularFields_of_mem h hv) hl

/-! ## Formats -/

namespace Format

variable {α β : Type}

/-- A format that adds nothing. -/
class Exact (f : Format α) : Prop where
  toNode_ofNode : ∀ {n x}, Fits f.layout n → f.ofNode? n = some x → f.toNode x = n

export Exact (toNode_ofNode)

/-- What is read as a value is an archive of the value's data. -/
theorem data_of_read {f : Format α} [f.Exact] (hf : f.layout.regular = true) {archive : Bytes} {x : α}
    (h : f.read archive = some x) : Archive.read f.layout archive = some (f.toNode x) := by
  unfold read at h
  obtain ⟨n, hread, hx⟩ := Option.bind_eq_some_iff.1 h
  have hfits : Fits f.layout n := by
    unfold Archive.read at hread
    dsimp only at hread
    split at hread
    · obtain ⟨⟨m, r⟩, hm, heq⟩ := Option.map_eq_some_iff.1 hread
      cases heq
      exact readNode_fits archive f.layout hf hm
    · cases hread
  rw [hread, toNode_ofNode hfits hx]

/-- A field of a record is read if it is a value's data, and the value is all that the rest knows of it. -/
theorem field {f : Format α} [f.Lawful] [f.Exact] {n : Node} {g : α → Option β} {y : β} (fits : Fits f.layout n) :
    (f.ofNode? n >>= g) = some y ↔ ∃ x, f.toNode x = n ∧ g x = some y := by
  constructor
  · intro h
    obtain ⟨x, hx, hg⟩ := Option.bind_eq_some_iff.1 h
    exact ⟨x, toNode_ofNode fits hx, hg⟩
  · rintro ⟨x, rfl, hg⟩
    rw [ofNode_toNode, Option.bind_eq_bind, Option.bind_some, hg]

/-- The only field of a variant. -/
theorem only {f : Format α} [f.Exact] {n : Node} {g : α → β} {y : β} (fits : Fits f.layout n)
    (h : (f.ofNode? n).map g = some y) : ∃ x, f.toNode x = n ∧ g x = y := by
  obtain ⟨x, hx, hg⟩ := Option.map_eq_some_iff.1 h
  exact ⟨x, toNode_ofNode fits hx, hg⟩

/-! ## Basic types, lists and options -/

instance : text.Exact where
  toNode_ofNode {n s} _ h := by
    cases n <;> cases h
    rfl

instance : bytes.Exact where
  toNode_ofNode {n s} _ h := by
    cases n <;> cases h
    rfl

instance : bool.Exact where
  toNode_ofNode {n s} _ h := by
    cases n <;> cases h
    rfl

instance : u16.Exact where
  toNode_ofNode {n x} fits h := by
    cases n <;> cases h
    exact congrArg Node.word (UInt16.toNat_ofNat_of_lt' fits.2)

instance : u64.Exact where
  toNode_ofNode {n x} fits h := by
    cases n <;> cases h
    exact congrArg Node.word (UInt64.toNat_ofNat_of_lt' fits.2)

instance : i32.Exact where
  toNode_ofNode {n x} fits h := by
    cases n <;> cases h
    exact congrArg Node.word (UInt32.toNat_ofNat_of_lt' fits.2)

instance : i64.Exact where
  toNode_ofNode {n x} fits h := by
    cases n <;> cases h
    exact congrArg Node.word (UInt64.toNat_ofNat_of_lt' fits.2)

instance : double.Exact where
  toNode_ofNode {n x} fits h := by
    cases n <;> cases h
    exact congrArg Node.word (UInt64.toNat_ofNat_of_lt' fits.2)

theorem map_of_mapM (f : Format α) [f.Lawful] [f.Exact] : ∀ {ns : List Node} {xs : List α},
    (∀ n ∈ ns, Fits f.layout n) → ns.mapM f.ofNode? = some xs → xs.map f.toNode = ns
  | [], _, _, h => by
    rw [List.mapM_nil] at h
    cases h
    rfl
  | n :: ns, _, fits, h => by
    rw [List.mapM_cons, field (fits n List.mem_cons_self)] at h
    obtain ⟨x, rfl, hrest⟩ := h
    obtain ⟨xs, hxs, heq⟩ := Option.bind_eq_some_iff.1 hrest
    cases heq
    rw [List.map_cons, map_of_mapM f (fun m hm => fits m (List.mem_cons_of_mem _ hm)) hxs]

instance (f : Format α) [f.Lawful] [f.Exact] : (list f).Exact where
  toNode_ofNode {n xs} fits h := by
    cases n with
    | list ns => exact congrArg Node.list (map_of_mapM f fits.2 h)
    | _ => cases h

instance (f : Format α) [f.Exact] : (option f).Exact where
  toNode_ofNode fits h := by
    unfold option at h
    dsimp only at h
    split at h
    · cases h
      rfl
    · obtain ⟨-, hn, -⟩ := fits
      obtain ⟨_, rfl, rfl⟩ := only hn h
      rfl
    · cases h

instance (f : Format α) (g : Format β) [f.Lawful] [g.Lawful] [f.Exact] [g.Exact] : (pair f g).Exact where
  toNode_ofNode fits h := by
    unfold pair at h
    dsimp only at h
    split at h
    · obtain ⟨ha, hb, -⟩ := fits
      simp only [field ha, field hb, Option.pure_def, Option.some.injEq] at h
      obtain ⟨_, rfl, _, rfl, rfl⟩ := h
      rfl
    · cases h

instance : pairs.Exact := inferInstanceAs (list (pair text text)).Exact

/-! ## Values -/

instance : httpRecord.Exact where
  toNode_ofNode fits h := by
    unfold httpRecord at h
    dsimp only at h
    split at h
    · obtain ⟨ha, hb, hc, hd, he, hf, -⟩ := fits
      simp only [field ha, field hb, field hc, field hd, field he, field hf, Option.pure_def, Option.some.injEq] at h
      obtain ⟨_, rfl, _, rfl, _, rfl, _, rfl, _, rfl, _, rfl, rfl⟩ := h
      rfl
    · cases h

instance : wireValue.Exact where
  toNode_ofNode fits h := by
    unfold wireValue at h
    dsimp only at h
    split at h
    -- the variant without a field, those of one field, and the tags that there are not
    all_goals first
      | cases h
        rfl
      | obtain ⟨-, hn, -⟩ := fits
        obtain ⟨_, rfl, rfl⟩ := only hn h
        rfl
      | cases h

instance : namedValue.Exact where
  toNode_ofNode fits h := by
    unfold namedValue at h
    dsimp only at h
    split at h
    · obtain ⟨ha, hb, -⟩ := fits
      simp only [field ha, field hb, Option.pure_def, Option.some.injEq] at h
      obtain ⟨_, rfl, _, rfl, rfl⟩ := h
      rfl
    · cases h

/-! ## Outcomes -/

instance : status.Exact where
  toNode_ofNode _ h := by
    unfold status at h
    dsimp only at h
    split at h <;> cases h <;> rfl

instance : exceptionRecord.Exact where
  toNode_ofNode fits h := by
    unfold exceptionRecord at h
    dsimp only at h
    split at h
    · obtain ⟨ha, hb, hc, hd, he, -⟩ := fits
      simp only [field ha, field hb, field hc, field hd, field he, Option.pure_def, Option.some.injEq] at h
      obtain ⟨_, rfl, _, rfl, _, rfl, _, rfl, _, rfl, rfl⟩ := h
      rfl
    · cases h

instance : outcome.Exact where
  toNode_ofNode fits h := by
    unfold outcome at h
    dsimp only at h
    split at h
    · obtain ⟨ha, hb, -⟩ := fits
      simp only [field ha, field hb, Option.pure_def, Option.some.injEq] at h
      obtain ⟨_, rfl, _, rfl, rfl⟩ := h
      rfl
    · cases h

/-! ## Functions -/

instance : direction.Exact where
  toNode_ofNode _ h := by
    unfold direction at h
    dsimp only at h
    split at h <;> cases h <;> rfl

instance : bindingInfo.Exact where
  toNode_ofNode fits h := by
    unfold bindingInfo at h
    dsimp only at h
    split at h
    · obtain ⟨ha, hb, -⟩ := fits
      simp only [field ha, field hb, Option.pure_def, Option.some.injEq] at h
      obtain ⟨_, rfl, _, rfl, rfl⟩ := h
      rfl
    · cases h

instance : retryStrategy.Exact where
  toNode_ofNode fits h := by
    unfold retryStrategy at h
    dsimp only at h
    split at h
    · obtain ⟨-, hn, -⟩ := fits
      obtain ⟨_, rfl, rfl⟩ := only hn h
      rfl
    · obtain ⟨-, ha, hb, -⟩ := fits
      simp only [field ha, field hb, Option.pure_def, Option.some.injEq] at h
      obtain ⟨_, rfl, _, rfl, rfl⟩ := h
      rfl
    · cases h

instance : retryPolicy.Exact where
  toNode_ofNode fits h := by
    unfold retryPolicy at h
    dsimp only at h
    split at h
    · obtain ⟨ha, hb, -⟩ := fits
      simp only [field ha, field hb, Option.pure_def, Option.some.injEq] at h
      obtain ⟨_, rfl, _, rfl, rfl⟩ := h
      rfl
    · cases h

instance : functionMetadata.Exact where
  toNode_ofNode fits h := by
    unfold functionMetadata at h
    dsimp only at h
    split at h
    · obtain ⟨ha, hb, hc, hd, he, hf, hg, hh, hi, hj, -⟩ := fits
      simp only [field ha, field hb, field hc, field hd, field he, field hf, field hg, field hh, field hi, field hj,
        Option.pure_def, Option.some.injEq] at h
      obtain ⟨_, rfl, _, rfl, _, rfl, _, rfl, _, rfl, _, rfl, _, rfl, _, rfl, _, rfl, _, rfl, rfl⟩ := h
      rfl
    · cases h

/-! ## Invocations -/

instance : traceContext.Exact where
  toNode_ofNode fits h := by
    unfold traceContext at h
    dsimp only at h
    split at h
    · obtain ⟨ha, hb, hc, -⟩ := fits
      simp only [field ha, field hb, field hc, Option.pure_def, Option.some.injEq] at h
      obtain ⟨_, rfl, _, rfl, _, rfl, rfl⟩ := h
      rfl
    · cases h

instance : retryContext.Exact where
  toNode_ofNode fits h := by
    unfold retryContext at h
    dsimp only at h
    split at h
    · obtain ⟨ha, hb, hc, -⟩ := fits
      simp only [field ha, field hb, field hc, Option.pure_def, Option.some.injEq] at h
      obtain ⟨_, rfl, _, rfl, _, rfl, rfl⟩ := h
      rfl
    · cases h

instance : invocationRequest.Exact where
  toNode_ofNode fits h := by
    unfold invocationRequest at h
    dsimp only at h
    split at h
    · obtain ⟨ha, hb, hc, hd, he, hf, -⟩ := fits
      simp only [field ha, field hb, field hc, field hd, field he, field hf, Option.pure_def, Option.some.injEq] at h
      obtain ⟨_, rfl, _, rfl, _, rfl, _, rfl, _, rfl, _, rfl, rfl⟩ := h
      rfl
    · cases h

instance : invocationResponse.Exact where
  toNode_ofNode fits h := by
    unfold invocationResponse at h
    dsimp only at h
    split at h
    · obtain ⟨ha, hb, hc, hd, he, hf, -⟩ := fits
      simp only [field ha, field hb, field hc, field hd, field he, field hf, Option.pure_def, Option.some.injEq] at h
      obtain ⟨_, rfl, _, rfl, _, rfl, _, rfl, _, rfl, _, rfl, rfl⟩ := h
      rfl
    · cases h

instance : invocationCancel.Exact where
  toNode_ofNode fits h := by
    unfold invocationCancel at h
    dsimp only at h
    split at h
    · obtain ⟨ha, hb, -⟩ := fits
      simp only [field ha, field hb, Option.pure_def, Option.some.injEq] at h
      obtain ⟨_, rfl, _, rfl, rfl⟩ := h
      rfl
    · cases h

/-! ## Control messages -/

instance : workerMetadata.Exact where
  toNode_ofNode fits h := by
    unfold workerMetadata at h
    dsimp only at h
    split at h
    · obtain ⟨ha, hb, hc, hd, he, -⟩ := fits
      simp only [field ha, field hb, field hc, field hd, field he, Option.pure_def, Option.some.injEq] at h
      obtain ⟨_, rfl, _, rfl, _, rfl, _, rfl, _, rfl, rfl⟩ := h
      rfl
    · cases h

instance : initRequest.Exact where
  toNode_ofNode fits h := by
    unfold initRequest at h
    dsimp only at h
    split at h
    · obtain ⟨ha, hb, hc, -⟩ := fits
      simp only [field ha, field hb, field hc, Option.pure_def, Option.some.injEq] at h
      obtain ⟨_, rfl, _, rfl, _, rfl, rfl⟩ := h
      rfl
    · cases h

instance : initResponse.Exact where
  toNode_ofNode fits h := by
    unfold initResponse at h
    dsimp only at h
    split at h
    · obtain ⟨ha, hb, hc, hd, -⟩ := fits
      simp only [field ha, field hb, field hc, field hd, Option.pure_def, Option.some.injEq] at h
      obtain ⟨_, rfl, _, rfl, _, rfl, _, rfl, rfl⟩ := h
      rfl
    · cases h

instance : metadataResponse.Exact where
  toNode_ofNode fits h := by
    unfold metadataResponse at h
    dsimp only at h
    split at h
    · obtain ⟨ha, hb, hc, -⟩ := fits
      simp only [field ha, field hb, field hc, Option.pure_def, Option.some.injEq] at h
      obtain ⟨_, rfl, _, rfl, _, rfl, rfl⟩ := h
      rfl
    · cases h

instance : loadRequest.Exact where
  toNode_ofNode fits h := by
    unfold loadRequest at h
    dsimp only at h
    split at h
    · obtain ⟨ha, hb, -⟩ := fits
      simp only [field ha, field hb, Option.pure_def, Option.some.injEq] at h
      obtain ⟨_, rfl, _, rfl, rfl⟩ := h
      rfl
    · cases h

instance : loadResponse.Exact where
  toNode_ofNode fits h := by
    unfold loadResponse at h
    dsimp only at h
    split at h
    · obtain ⟨ha, hb, -⟩ := fits
      simp only [field ha, field hb, Option.pure_def, Option.some.injEq] at h
      obtain ⟨_, rfl, _, rfl, rfl⟩ := h
      rfl
    · cases h

instance : reloadRequest.Exact where
  toNode_ofNode fits h := by
    unfold reloadRequest at h
    dsimp only at h
    split at h
    · obtain ⟨ha, hb, -⟩ := fits
      simp only [field ha, field hb, Option.pure_def, Option.some.injEq] at h
      obtain ⟨_, rfl, _, rfl, rfl⟩ := h
      rfl
    · cases h

instance : reloadResponse.Exact where
  toNode_ofNode fits h := by
    unfold reloadResponse at h
    dsimp only at h
    split at h
    · obtain ⟨ha, hb, hc, -⟩ := fits
      simp only [field ha, field hb, field hc, Option.pure_def, Option.some.injEq] at h
      obtain ⟨_, rfl, _, rfl, _, rfl, rfl⟩ := h
      rfl
    · cases h

/-! ## Log records -/

instance : logLevel.Exact where
  toNode_ofNode _ h := by
    unfold logLevel at h
    dsimp only at h
    split at h <;> cases h <;> rfl

instance : logCategory.Exact where
  toNode_ofNode _ h := by
    unfold logCategory at h
    dsimp only at h
    split at h <;> cases h <;> rfl

instance : logRecord.Exact where
  toNode_ofNode fits h := by
    unfold logRecord at h
    dsimp only at h
    split at h
    · obtain ⟨ha, hb, hc, hd, he, hf, -⟩ := fits
      simp only [field ha, field hb, field hc, field hd, field he, field hf, Option.pure_def, Option.some.injEq] at h
      obtain ⟨_, rfl, _, rfl, _, rfl, _, rfl, _, rfl, _, rfl, rfl⟩ := h
      rfl
    · cases h

/-! ## Envelopes -/

instance (f : Format α) [f.Exact] : (single f).Exact where
  toNode_ofNode fits h := by
    unfold single at h
    dsimp only at h
    split at h
    · obtain ⟨hn, -⟩ := fits
      exact congrArg (fun n => Node.record [n]) (toNode_ofNode hn h)
    · cases h

instance : message.Exact where
  toNode_ofNode fits h := by
    unfold message at h
    dsimp only at h
    split at h
    all_goals first
      | cases h
        rfl
      | obtain ⟨-, hn, -⟩ := fits
        obtain ⟨_, rfl, rfl⟩ := only hn h
        rfl
      | cases h

instance : header.Exact where
  toNode_ofNode fits h := by
    unfold header at h
    dsimp only at h
    split at h
    · obtain ⟨ha, hb, hc, -⟩ := fits
      simp only [field ha, field hb, field hc, Option.pure_def, Option.some.injEq] at h
      obtain ⟨_, rfl, _, rfl, _, rfl, rfl⟩ := h
      rfl
    · cases h

instance envelope_exact : envelope.Exact where
  toNode_ofNode fits h := by
    unfold envelope at h
    dsimp only at h
    split at h
    · obtain ⟨ha, hb, -⟩ := fits
      simp only [field ha, field hb, Option.pure_def, Option.some.injEq] at h
      obtain ⟨_, rfl, _, rfl, rfl⟩ := h
      rfl
    · cases h

end Format

end FunctionWorker.Archive
