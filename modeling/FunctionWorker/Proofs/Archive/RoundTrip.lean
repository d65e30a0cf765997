/-
What is written as an archive is read back. Reading is followed along the layout: whatever range
the reader is in, if it covers the octets in which the content of a part was laid down, reading the
part gives the node back and leaves all that lies behind those octets. So one part after another is
found in the range that the parts before it have left.
-/
import FunctionWorker.Proofs.Archive.Octets
import FunctionWorker.Proofs.Text.Utf8

namespace FunctionWorker.Archive

/-! ## Data of a layout -/

/-- Induction over a layout and the layouts of its parts. -/
@[elab_as_elim]
theorem Layout.inductionOn {P : Layout → Prop} (word : ∀ size, P (.word size)) (bool : P .bool)
    (text : P .text) (bytes : P .bytes) (list : ∀ item, P item → P (.list item))
    (record : ∀ fields, (∀ l ∈ fields, P l) → P (.record fields))
    (choice : ∀ variants, (∀ v ∈ variants, ∀ l ∈ v, P l) → P (.choice variants)) : ∀ l, P l
  | .word size => word size
  | .bool => bool
  | .text => text
  | .bytes => bytes
  | .list item => list item (inductionOn word bool text bytes list record choice item)
  | .record fields =>
    record fields fun l _ => inductionOn word bool text bytes list record choice l
  | .choice variants =>
    choice variants fun v _ l _ => inductionOn word bool text bytes list record choice l
termination_by l => sizeOf l
decreasing_by
  · decreasing_tactic
  · decreasing_tactic
  · rename_i hv hl
    have h₁ := List.sizeOf_lt_of_mem hv
    have h₂ := List.sizeOf_lt_of_mem hl
    simp_wf; omega

mutual

/-- The data of a layout: words within their size, as many fields as the layout has, and tags that
are octets. The items of a list take up octets, so that their number is bounded by the archive. -/
def Fits : Layout → Node → Prop
  | .word size, .word n => 0 < size ∧ n < 256 ^ size
  | .bool, .bool _ => True
  | .text, .text _ => True
  | .bytes, .bytes _ => True
  | .list item, .list ns => (0 < item.size ∧ 0 < item.alignment) ∧ ∀ n ∈ ns, Fits item n
  | .record fields, .record ns => FitFields fields ns
  | .choice variants, .choice tag ns => tag < 256 ∧ FitVariant variants tag ns
  | _, _ => False

def FitFields : List Layout → List Node → Prop
  | [], [] => True
  | l :: ls, n :: ns => Fits l n ∧ FitFields ls ns
  | _, _ => False

def FitVariant : List (List Layout) → Nat → List Node → Prop
  | [], _, _ => False
  | v :: _, 0, ns => FitFields v ns
  | _ :: vs, tag + 1, ns => FitVariant vs tag ns

end

theorem Fits.alignment_pos {l : Layout} {n : Node} (h : Fits l n) : 0 < l.alignment := by
  cases l with
  | word size => cases n <;> simp only [Fits] at h; exact h.1
  | record fields => exact one_le_alignmentOfFields fields
  | choice variants => exact one_le_alignmentOfVariants variants
  | _ => simp only [Layout.alignment]; norm_num

theorem FitVariant.fields : ∀ {vs : List (List Layout)} {tag : Nat} {ns : List Node},
    FitVariant vs tag ns → ∃ v ∈ vs, vs.getD tag [] = v ∧ FitFields v ns
  | [], _, _, h => by simp only [FitVariant] at h
  | v :: _, 0, _, h => by
    simp only [FitVariant] at h
    exact ⟨v, List.mem_cons_self, rfl, h⟩
  | _ :: vs, tag + 1, _, h => by
    simp only [FitVariant] at h
    obtain ⟨v, hv, hg, hf⟩ := h.fields
    exact ⟨v, List.mem_cons_of_mem _ hv, hg, hf⟩

/-! ## Sizes in place -/

/-- A part takes up so many octets in place, wherever it lies. -/
def Part.Sized (p : Part) (size : Nat) : Prop := ∀ here, (p.inPlaceAt here).length = size

theorem padTo_length {size : Nat} {b : Bytes} (h : b.length ≤ size) : (padTo size b).length = size := by
  unfold padTo padding
  rw [List.length_append, List.length_replicate]
  omega

theorem padTo_self (b : Bytes) : padTo b.length b = b := by
  unfold padTo padding; simp

theorem text_sized (pos : Nat) (octets : Bytes) : (Part.text pos octets).Sized 8 := by
  intro here
  unfold Part.text
  split
  · rename_i h
    simp only [Part.here, List.length_append, List.length_replicate]
    unfold inPlace at *; omega
  · simp

theorem pointer_length (start count here : Nat) : (Part.pointer start count here).length = 8 := by
  unfold Part.pointer; simp

/-- Fields that lie together end where the layout says. -/
theorem placeFields_length (base : Nat) : ∀ (offset : Nat) (ps : List (Layout × Part)),
    (∀ x ∈ ps, 0 < x.1.alignment ∧ x.2.Sized x.1.size) →
      offset + (placeFields base offset ps).length = Layout.endOfFields offset (ps.map (·.1))
  | offset, [], _ => by simp [placeFields, Layout.endOfFields]
  | offset, (l, p) :: rest, h => by
    obtain ⟨ha, hs⟩ := h (l, p) List.mem_cons_self
    have hr := placeFields_length base (alignUp offset l.alignment + l.size) rest
      (fun x hx => h x (List.mem_cons_of_mem _ hx))
    have hle : offset ≤ alignUp offset l.alignment := le_alignUp offset ha
    have hs' : (p.inPlaceAt (base + alignUp offset l.alignment)).length = l.size := hs _
    simp only [placeFields, placeField, List.map_cons, Layout.endOfFields, List.length_append, padding,
      List.length_replicate] at hr ⊢
    rw [← hr, padTo_length hs'.le]
    omega

/-- The fields of a layout with the parts written for them: every part has its size. -/
theorem fields_sized {fields : List Layout}
    (ih : ∀ l ∈ fields, ∀ n pos, Fits l n → (part pos l n).Sized l.size) :
    ∀ (ns : List Node) (pos : Nat), FitFields fields ns →
      (fields.zip (partsOfFields pos fields ns)).map (·.1) = fields ∧
        ∀ x ∈ fields.zip (partsOfFields pos fields ns), 0 < x.1.alignment ∧ x.2.Sized x.1.size := by
  induction fields with
  | nil => intro ns pos _; simp
  | cons l ls ihl =>
    intro ns pos h
    cases ns with
    | nil => simp only [FitFields] at h
    | cons n ns =>
      simp only [FitFields] at h
      obtain ⟨hm, hx⟩ := ihl (fun l' hl' => ih l' (List.mem_cons_of_mem _ hl')) ns
        (pos + (part pos l n).content.length) h.2
      simp only [partsOfFields, List.zip_cons_cons, List.map_cons, hm, true_and]
      intro x hx'
      rcases List.mem_cons.1 hx' with rfl | hx'
      · exact ⟨h.1.alignment_pos, ih l List.mem_cons_self n pos h.1⟩
      · exact hx x hx'

theorem endOfFields_le_endOfVariants : ∀ {vs : List (List Layout)} {v : List Layout}, v ∈ vs →
    Layout.endOfFields 1 v ≤ Layout.endOfVariants vs
  | w :: ws, v, h => by
    unfold Layout.endOfVariants
    rcases List.mem_cons.1 h with rfl | h
    · exact le_max_left _ _
    · exact le_trans (endOfFields_le_endOfVariants h) (le_max_right _ _)

/-- Every part takes up in place what its layout says. -/
theorem part_sized (l : Layout) : ∀ (n : Node) (pos : Nat), Fits l n → (part pos l n).Sized l.size := by
  induction l using Layout.inductionOn with
  | word size =>
    intro n pos h here
    cases n <;> simp only [Fits] at h
    simp only [part, Part.here, littleEndian_length, Layout.size]
  | bool =>
    intro n pos h here
    cases n <;> simp only [Fits] at h
    simp only [part, Part.here, List.length_singleton, Layout.size]
  | text =>
    intro n pos h
    cases n <;> simp only [Fits] at h
    simp only [part, Layout.size]; exact text_sized _ _
  | bytes =>
    intro n pos h here
    cases n <;> simp only [Fits] at h
    simp only [part, Part.bytes, Layout.size]; exact pointer_length _ _ _
  | list item _ =>
    intro n pos h here
    cases n <;> simp only [Fits] at h
    simp only [part, Layout.size]; exact pointer_length _ _ _
  | record fields ih =>
    intro n pos h here
    cases n <;> simp only [Fits] at h
    obtain ⟨hm, hx⟩ := fields_sized ih _ pos h
    have hl := placeFields_length here 0 _ hx
    have hle := le_alignUp (Layout.endOfFields 0 fields) (one_le_alignmentOfFields fields)
    simp only [part]
    apply padTo_length
    simp only [Layout.size]
    rw [hm] at hl; omega
  | choice variants ih =>
    intro n pos h here
    cases n <;> simp only [Fits] at h
    obtain ⟨v, hv, hg, hf⟩ := h.2.fields
    obtain ⟨hm, hx⟩ := fields_sized (ih v hv) _ pos hf
    have hl := placeFields_length here 1 _ hx
    have hend := endOfFields_le_endOfVariants hv
    have hle := le_alignUp (Layout.endOfVariants variants) (one_le_alignmentOfVariants variants)
    simp only [part, hg]
    apply padTo_length
    simp only [Layout.size, List.length_cons]
    rw [hm] at hl; omega

/-! ## Reading what stands in a range -/

/-- In every range that covers the octets from `first` to `last`, the reader yields `x` and what
lies behind those octets may still be pointed to. -/
def Reads {α : Type} (read : Range → Option (α × Range)) (x : α) (first last : Nat) : Prop :=
  ∀ r : Range, r.first ≤ first → last ≤ r.last →
    ∃ r', read r = some (x, r') ∧ r'.first ≤ last ∧ r'.last = r.last

/-- A reader that points nowhere. -/
theorem Reads.here {α : Type} {read : Range → Option (α × Range)} {x : α} {pos : Nat}
    (h : ∀ r, read r = some (x, r)) : Reads read x pos pos :=
  fun r hf _ => ⟨r, h r, hf, rfl⟩

/-- A reader that takes over what another one yields. -/
theorem Reads.imp {α β : Type} {read : Range → Option (α × Range)}
    {read' : Range → Option (β × Range)} {x : α} {y : β} {first last : Nat}
    (h : Reads read x first last) (hr : ∀ r r', read r = some (x, r') → read' r = some (y, r')) :
    Reads read' y first last := by
  intro r hf hl
  obtain ⟨r', he, hrf, hrl⟩ := h r hf hl
  exact ⟨r', hr r r' he, hrf, hrl⟩

theorem admits_intro {r : Range} {start length a : Nat} (hf : r.first ≤ start)
    (hl : start + length ≤ r.last) (ha : start % a = 0) : r.admits start length a = true := by
  unfold Range.admits
  simp only [Int.toNat_natCast, Bool.and_eq_true, decide_eq_true_eq, beq_iff_eq]
  exact ⟨⟨by exact_mod_cast hf, by exact_mod_cast hl⟩, ha⟩

section Archive

variable {archive : Bytes}

/-- Octets in an archive of fewer than `2 ^ 30` octets lie at most a word of 31 bits apart. -/
theorem distance_read (hsmall : archive.length < 2 ^ 30) {start here : Nat}
    (hs : start ≤ archive.length) (hh : here ≤ archive.length) :
    (here : Int) + distanceOfWord (distanceWord (start - here)) = start := by
  rw [distanceOfWord_distanceWord (by omega) (by omega)]; omega

/-- What a pointer points to may be entered. -/
theorem enter_pointer (hsmall : archive.length < 2 ^ 30) {start count here s a : Nat} {r : Range}
    (hp : Stands archive here (Part.pointer start count here)) (hf : r.first ≤ start)
    (hl : start + count * s ≤ r.last) (ha : start % a = 0) (hc : count < 2 ^ 30)
    (hs : start ≤ archive.length) :
    enter archive here s a r = some (start, count) := by
  have hle := hp.le
  rw [pointer_length] at hle
  unfold Part.pointer at hp
  have hd := hp.left.wordAt (distanceWord_lt _)
  have hn := hp.right
  rw [littleEndian_length] at hn
  have hn := hn.wordAt (lt_trans hc (by norm_num))
  unfold enter
  simp only [hd, hn, distance_read hsmall hs (by omega : here ≤ archive.length),
    admits_intro hf hl ha, if_true, Int.toNat_natCast]

/-! ## Texts and byte strings -/

theorem takeWhile_pad {octets : Bytes} (h : ∀ b ∈ octets, b ≠ 0xff) (n : Nat) :
    (octets ++ List.replicate n 0xff).takeWhile (· ≠ 0xff) = octets := by
  rw [List.takeWhile_append_of_pos (by simpa using h)]
  cases n <;> simp [List.replicate_succ]

/-- A text of at most eight octets is found where it is held. -/
theorem readText_inPlace {s : String} {here : Nat} (hlen : (Text.utf8 s).length ≤ inPlace)
    (h : Stands archive here (Text.utf8 s ++ List.replicate (inPlace - (Text.utf8 s).length) 0xff))
    (r : Range) : readText archive here r = some (s, r) := by
  have hs := h.slice
  rw [List.length_append, List.length_replicate, Nat.add_sub_cancel' hlen] at hs
  have hmark : ((Text.utf8 s ++ List.replicate (inPlace - (Text.utf8 s).length) 0xff).headD 0)
      &&& 0xc0 ≠ 0x80 := by
    cases hu : Text.utf8 s with
    | nil => decide
    | cons b rest => exact Text.head_utf8_ne hu
  unfold readText
  change slice archive here 8 = _ at hs
  simp only [hs]
  rw [if_neg (by rw [List.length_append, List.length_replicate, Nat.add_sub_cancel' hlen]; decide),
    if_pos hmark, takeWhile_pad (fun b hb => Text.ne_ff_of_mem_utf8 hb), Text.ofUtf8?_utf8]
  rfl

/-- A longer text is found where its word of distance points. -/
theorem readText_elsewhere (hsmall : archive.length < 2 ^ 30) {s : String} {here pos : Nat}
    (hlen : inPlace < (Text.utf8 s).length) (hc : Stands archive pos (Text.utf8 s))
    (h : Stands archive here (littleEndian 4 (lengthWord (Text.utf8 s).length) ++
      littleEndian 4 (distanceWord (pos - here)))) :
    Reads (readText archive here) s pos (pos + (Text.utf8 s).length) := by
  intro r hf hl
  have hle := hc.le
  have hhere := h.le
  have hs := h.slice
  simp only [List.length_append, littleEndian_length] at hs hhere
  have hmark : (littleEndian 4 (lengthWord (Text.utf8 s).length) ++
      littleEndian 4 (distanceWord (pos - here))).headD 0 &&& 0xc0 = 0x80 := lengthWord_mark _
  have htake : (littleEndian 4 (lengthWord (Text.utf8 s).length) ++
      littleEndian 4 (distanceWord (pos - here))).take 4 =
        littleEndian 4 (lengthWord (Text.utf8 s).length) := List.take_left' (littleEndian_length _ _)
  have hdrop : (littleEndian 4 (lengthWord (Text.utf8 s).length) ++
      littleEndian 4 (distanceWord (pos - here))).drop 4 =
        littleEndian 4 (distanceWord (pos - here)) := List.drop_left' (littleEndian_length _ _)
  have hlw := ofLittleEndian_littleEndian (lengthWord_lt (by omega : (Text.utf8 s).length < 2 ^ 30))
  have hdw := ofLittleEndian_littleEndian (distanceWord_lt (pos - here))
  -- the first octet is marked, so that the reader follows the distance behind the word of length
  refine ⟨r.behind pos (Text.utf8 s).length, ?_, le_rfl, rfl⟩
  unfold readText
  simp only [hs, hmark, htake, hdrop, hlw, hdw, lengthOfWord_lengthWord]
  rw [if_neg (by simp), if_neg (by simp), if_neg (by omega),
    distance_read hsmall (by omega) (by omega), if_pos (admits_intro hf hl (Nat.mod_one _)),
    Int.toNat_natCast, hc.slice, Text.ofUtf8?_utf8]
  rfl

theorem readText_part (hsmall : archive.length < 2 ^ 30) {s : String} {here pos : Nat}
    (hc : Stands archive pos (Part.text pos (Text.utf8 s)).content)
    (h : Stands archive here ((Part.text pos (Text.utf8 s)).inPlaceAt here)) :
    Reads (readText archive here) s pos (pos + (Part.text pos (Text.utf8 s)).content.length) := by
  unfold Part.text at *
  split at hc
  · rename_i hlen
    rw [if_pos hlen] at h ⊢
    exact Reads.here (readText_inPlace hlen h)
  · rename_i hlen
    rw [if_neg hlen] at h ⊢
    exact readText_elsewhere hsmall (not_le.1 hlen) hc h

theorem readBytes_part (hsmall : archive.length < 2 ^ 30) {b : Bytes} {here pos : Nat}
    (hc : Stands archive pos b) (h : Stands archive here (Part.pointer pos b.length here)) :
    Reads (readBytes archive here) b pos (pos + b.length) := by
  intro r hf hl
  have hle := hc.le
  refine ⟨r.behind pos b.length, ?_, le_rfl, rfl⟩
  unfold readBytes
  rw [enter_pointer hsmall h hf (by omega) (Nat.mod_one _) (by omega) (by omega)]
  simp only [hc.slice]

/-! ## Items and fields -/

/-- In an archive, what was written of a layout is read back. -/
def RoundTrips (archive : Bytes) (l : Layout) : Prop :=
  ∀ (n : Node) (pos here : Nat), Fits l n → Stands archive pos (part pos l n).content →
    Stands archive here ((part pos l n).inPlaceAt here) →
      Reads (readNode archive l here) n pos (pos + (part pos l n).content.length)

theorem contents_cons (p : Part) (ps : List Part) : contents (p :: ps) = p.content ++ contents ps := by
  unfold contents; rw [List.map_cons, List.flatten_cons]

theorem partsOfItems_length (item : Layout) : ∀ (ns : List Node) (pos : Nat),
    (partsOfItems pos item ns).length = ns.length
  | [], _ => by simp only [partsOfItems, List.length_nil]
  | _ :: ns, _ => by simp only [partsOfItems, List.length_cons, partsOfItems_length item ns]

theorem consecutive_length {size : Nat} : ∀ {ps : List Part} (start : Nat),
    (∀ p ∈ ps, p.Sized size) → (Part.consecutive size start ps).length = ps.length * size
  | [], _, _ => by simp only [Part.consecutive, List.length_nil, Nat.zero_mul]
  | p :: ps, start, h => by
    have hp : (p.inPlaceAt start).length ≤ size := (h p List.mem_cons_self start).le
    have hps := consecutive_length (start + size) fun q hq => h q (List.mem_cons_of_mem _ hq)
    simp only [Part.consecutive, List.length_append, padTo_length hp, hps, List.length_cons]
    ring

theorem items_sized {item : Layout} : ∀ {ns : List Node} (pos : Nat), (∀ n ∈ ns, Fits item n) →
    ∀ p ∈ partsOfItems pos item ns, p.Sized item.size
  | [], _, _, p, hp => by simp [partsOfItems] at hp
  | n :: ns, pos, h, p, hp => by
    simp only [partsOfItems, List.mem_cons] at hp
    rcases hp with rfl | hp
    · exact part_sized item n pos (h n List.mem_cons_self)
    · exact items_sized _ (fun m hm => h m (List.mem_cons_of_mem _ hm)) p hp

/-- Items that lie one after another are read one after another, each in the range that the ones
before it have left. -/
theorem readItems_parts {item : Layout} (ih : RoundTrips archive item) :
    ∀ (ns : List Node) (pos start : Nat), (∀ n ∈ ns, Fits item n) →
      Stands archive pos (contents (partsOfItems pos item ns)) →
      Stands archive start (Part.consecutive item.size start (partsOfItems pos item ns)) →
        Reads (readItems (readNode archive item) item.size ns.length start) ns pos
          (pos + (contents (partsOfItems pos item ns)).length)
  | [], pos, start, _, _, _ => by
    simp only [partsOfItems, contents, List.map_nil, List.flatten_nil, List.length_nil]
    exact Reads.here fun r => by simp only [readItems]
  | n :: ns, pos, start, h, hc, hp => by
    have hn := h n List.mem_cons_self
    have hsize := part_sized item n pos hn start
    simp only [partsOfItems, contents_cons, Part.consecutive] at hc hp ⊢
    have hnext := hp.right
    rw [padTo_length hsize.le] at hnext
    intro r hf hl
    rw [List.length_append] at hl ⊢
    obtain ⟨r₁, he₁, hf₁, hl₁⟩ := ih n pos start hn hc.left hp.left.left r hf (by omega)
    obtain ⟨r₂, he₂, hf₂, hl₂⟩ := readItems_parts ih ns _ _ (fun m hm => h m (List.mem_cons_of_mem _ hm))
      hc.right hnext r₁ hf₁ (by omega)
    refine ⟨r₂, ?_, by omega, hl₂.trans hl₁⟩
    simp only [List.length_cons, readItems, he₁, he₂]

theorem readNode_list (hsmall : archive.length < 2 ^ 30) {item : Layout}
    (ih : RoundTrips archive item) : RoundTrips archive (.list item) := by
  intro n pos here h hc hp
  cases n <;> simp only [Fits] at h
  rename_i ns
  obtain ⟨⟨hsize, halign⟩, hfit⟩ := h
  simp only [part] at hc hp ⊢
  generalize hparts : partsOfItems pos item ns = parts at hc hp ⊢
  generalize hstart : alignUp (pos + (contents parts).length) item.alignment = start at hc hp ⊢
  have hle : pos + (contents parts).length ≤ start := hstart ▸ le_alignUp _ halign
  have hsized : ∀ p ∈ parts, p.Sized item.size := hparts ▸ items_sized pos hfit
  have hcount : parts.length = ns.length := hparts ▸ partsOfItems_length item ns pos
  have hrun := consecutive_length start hsized
  have hin := hc.right
  have hbound := hc.le
  simp only [List.length_append, padding, List.length_replicate] at hin hbound ⊢
  rw [hrun, hcount] at hbound ⊢
  rw [show pos + ((contents parts).length + (start - (pos + (contents parts).length))) = start by omega] at hin
  -- items take up octets, so that their number fits into its word
  have hmany : ns.length ≤ ns.length * item.size := Nat.le_mul_of_pos_right _ hsize
  intro r hf hl
  have henter := enter_pointer hsmall (s := item.size) (a := item.alignment) hp
    (by omega : r.first ≤ start) (by omega) (hstart ▸ alignUp_mod _ _) (by omega) (by omega)
  -- items may point to what lies before the list, and the list is left behind as a whole
  have hitems := readItems_parts ih ns pos start hfit (hparts ▸ hc.left.left) (hparts ▸ hin)
  obtain ⟨r', he, -, -⟩ := hitems (r.before start) hf (by rw [hparts]; exact hle)
  refine ⟨r.behind start (ns.length * item.size), ?_, ?_, rfl⟩
  · simp only [readNode, henter, he, Option.map_some]
  · simp only [Range.behind]; omega

/-- Fields that lie together are read in their order. -/
theorem readFields_parts {fields : List Layout} (ih : ∀ l ∈ fields, RoundTrips archive l) :
    ∀ (ns : List Node) (pos here offset : Nat), FitFields fields ns →
      Stands archive pos (contents (partsOfFields pos fields ns)) →
      Stands archive (here + offset)
        (placeFields here offset (fields.zip (partsOfFields pos fields ns))) →
        Reads (readFields archive fields here offset) ns pos
          (pos + (contents (partsOfFields pos fields ns)).length) := by
  induction fields with
  | nil =>
    intro ns pos here offset h _ _
    cases ns with
    | nil =>
      simp only [partsOfFields, contents, List.map_nil, List.flatten_nil, List.length_nil]
      exact Reads.here fun r => by simp only [readFields]
    | cons n ns => simp only [FitFields] at h
  | cons l ls ihl =>
    intro ns pos here offset h hc hp
    cases ns with
    | nil => simp only [FitFields] at h
    | cons n ns =>
      simp only [FitFields] at h
      have hle : offset ≤ alignUp offset l.alignment := le_alignUp _ h.1.alignment_pos
      have hsize := part_sized l n pos h.1 (here + alignUp offset l.alignment)
      simp only [partsOfFields, contents_cons, List.zip_cons_cons, placeFields, placeField] at hc hp ⊢
      -- the zeros in front of a field end at its alignment, and its octets end with its size
      have hfield := hp.left.right
      have hnext := hp.right
      simp only [List.length_append, padding, List.length_replicate, padTo_length hsize.le] at hfield hnext
      rw [show here + offset + (alignUp offset l.alignment - offset) = here + alignUp offset l.alignment by
        omega] at hfield
      rw [show here + offset + (alignUp offset l.alignment - offset + l.size) =
        here + (alignUp offset l.alignment + l.size) by omega] at hnext
      intro r hf hl
      rw [List.length_append] at hl ⊢
      obtain ⟨r₁, he₁, hf₁, hl₁⟩ :=
        ih l List.mem_cons_self n pos _ h.1 hc.left hfield.left r hf (by omega)
      obtain ⟨r₂, he₂, hf₂, hl₂⟩ := ihl (fun l' hl' => ih l' (List.mem_cons_of_mem _ hl')) ns _ _ _ h.2
        hc.right hnext r₁ hf₁ (by omega)
      refine ⟨r₂, ?_, by omega, hl₂.trans hl₁⟩
      simp only [readFields, he₁, he₂]

theorem readVariant_eq (archive : Bytes) (pos : Nat) : ∀ {vs : List (List Layout)} {tag : Nat}
    {ns : List Node} (r : Range), FitVariant vs tag ns →
      readVariant archive vs tag pos r = readFields archive (vs.getD tag []) pos 1 r
  | [], _, _, _, h => by simp only [FitVariant] at h
  | v :: _, 0, _, r, _ => by simp only [readVariant]; rfl
  | _ :: vs, tag + 1, _, r, h => by
    simp only [FitVariant] at h
    simp only [readVariant]
    exact readVariant_eq archive pos r h

theorem readNode_record {fields : List Layout} (ih : ∀ l ∈ fields, RoundTrips archive l) :
    RoundTrips archive (.record fields) := by
  intro n pos here h hc hp
  cases n <;> simp only [Fits] at h
  rename_i ns
  simp only [part] at hc hp ⊢
  have hread := readFields_parts ih ns pos here 0 h hc hp.left
  exact hread.imp fun r r' he => by simp only [readNode, he, Option.map_some]

theorem readNode_choice {variants : List (List Layout)}
    (ih : ∀ v ∈ variants, ∀ l ∈ v, RoundTrips archive l) : RoundTrips archive (.choice variants) := by
  intro n pos here h hc hp
  cases n <;> simp only [Fits] at h
  rename_i tag ns
  obtain ⟨htag, hfit⟩ := h
  obtain ⟨v, hv, hg, hf⟩ := hfit.fields
  simp only [part, hg] at hc hp ⊢
  have hin := hp.left
  have hmark : Stands archive here (littleEndian 1 tag) := by
    have := Stands.left (b := [UInt8.ofNat tag]) (c := placeFields here 1 _) hin
    rwa [littleEndian, Nat.mod_eq_of_lt htag]
  have hfields := Stands.right (b := [UInt8.ofNat tag]) (c := placeFields here 1 _) hin
  have hread := readFields_parts (ih v hv) ns pos here 1 hf hc hfields
  refine hread.imp fun r r' he => ?_
  simp only [readNode, hmark.wordAt (by omega), readVariant_eq archive here r hfit, hg, he, Option.map_some]

/-- In an archive of fewer than `2 ^ 30` octets every layout is read back. -/
theorem roundTrips (hsmall : archive.length < 2 ^ 30) (l : Layout) : RoundTrips archive l := by
  induction l using Layout.inductionOn with
  | word size =>
    intro n pos here h hc hp
    cases n <;> simp only [Fits] at h
    simp only [part, Part.here] at hp ⊢
    exact Reads.here fun r => by simp only [readNode, hp.wordAt h.2, Option.map_some]
  | bool =>
    intro n pos here h hc hp
    cases n <;> simp only [Fits] at h
    rename_i b
    simp only [part, Part.here] at hp ⊢
    cases b
    · have hw : wordAt archive here 1 = some 0 := Stands.wordAt hp (by norm_num)
      exact Reads.here fun r => by simp only [readNode, hw]
    · have hw : wordAt archive here 1 = some 1 := Stands.wordAt hp (by norm_num)
      exact Reads.here fun r => by simp only [readNode, hw]
  | text =>
    intro n pos here h hc hp
    cases n <;> simp only [Fits] at h
    simp only [part] at hc hp ⊢
    exact (readText_part hsmall hc hp).imp fun r r' he => by simp only [readNode, he, Option.map_some]
  | bytes =>
    intro n pos here h hc hp
    cases n <;> simp only [Fits] at h
    simp only [part, Part.bytes] at hc hp ⊢
    exact (readBytes_part hsmall hc hp).imp fun r r' he => by simp only [readNode, he, Option.map_some]
  | list item ih => exact readNode_list hsmall ih
  | record fields ih => exact readNode_record ih
  | choice variants ih => exact readNode_choice ih

end Archive

/-! ## Whole archives -/

/-- What is written as an archive of fewer than `2 ^ 30` octets is read back. -/
theorem read_write {l : Layout} {n : Node} (h : Fits l n) (hsmall : (write l n).length < 2 ^ 30) :
    read l (write l n) = some n := by
  have hsize := fun here => part_sized l n 0 h here
  generalize hp : part 0 l n = p at hsize
  generalize hroot : alignUp p.content.length l.alignment = root
  have hle : p.content.length ≤ root := hroot ▸ le_alignUp _ h.alignment_pos
  have hw : write l n = p.content ++ padding (root - p.content.length) ++ p.inPlaceAt root := by
    unfold write
    rw [hp]
    simp only [hroot]
    rw [← hsize root, padTo_self]
  have hlen : (write l n).length = root + l.size := by
    rw [hw]; simp only [List.length_append, padding, List.length_replicate, hsize]; omega
  have hc : Stands (write l n) 0 p.content :=
    ⟨[], padding (root - p.content.length) ++ p.inPlaceAt root, rfl, by rw [hw]; simp⟩
  have hin : Stands (write l n) root (p.inPlaceAt root) :=
    ⟨p.content ++ padding (root - p.content.length), [], by
      simp only [List.length_append, padding, List.length_replicate]; omega, by rw [hw]; simp⟩
  -- the root may point to all that lies before it
  obtain ⟨r', he, -, -⟩ := roundTrips hsmall l n 0 root h (hp ▸ hc) (hp ▸ hin) ⟨0, root⟩ le_rfl
    (by rw [hp]; simpa using hle)
  unfold read
  have hstart : ((write l n).length : Int) - l.size = (root : Nat) := by rw [hlen]; push_cast; ring
  simp only [hstart, Int.toNat_natCast]
  rw [if_pos (admits_intro (Nat.zero_le _) (by rw [hlen]) (hroot ▸ alignUp_mod _ _))]
  simp only [Range.before, he, Option.map_some]

end FunctionWorker.Archive
