/-
What an archive can hold. The reader never looks at a place twice: what a block points to lies before it, and
what is read afterwards lies behind it, so the places of each node are apart from those of all others. Every
octet of a text or a byte string has a place of its own, and so has every item of a list; no archive holds
more of them than it has octets.
-/
import FunctionWorker.Proofs.Archive.Exact
import FunctionWorker.Proofs.Archive.Places

namespace FunctionWorker.Archive

/-! ## How much a node holds -/

namespace Node

mutual

/-- The octets of all texts and byte strings in a node. -/
def octets : Node → Nat
  | .word _ | .bool _ => 0
  | .text s => (Text.utf8 s).length
  | .bytes b => b.length
  | .list ns | .record ns | .choice _ ns => octetsOfAll ns

def octetsOfAll : List Node → Nat
  | [] => 0
  | n :: ns => octets n + octetsOfAll ns

end

mutual

/-- The items of all lists in a node, a byte string being a list of octets. -/
def items : Node → Nat
  | .word _ | .bool _ | .text _ => 0
  | .bytes b => b.length
  | .list ns => ns.length + itemsOfAll ns
  | .record ns | .choice _ ns => itemsOfAll ns

def itemsOfAll : List Node → Nat
  | [] => 0
  | n :: ns => items n + itemsOfAll ns

end

end Node

/-! ## Readings -/

/-- What has come of reading something that lies in place from `lo` to `hi`, in the range `r` that lies before it;
`r'` is the range that is left. -/
structure Takes (lo hi : Nat) (r r' : Range) (octets items : Nat) (ps : List Nat) : Prop where
  apart : r.last ≤ lo
  inPlace : lo ≤ hi
  first : r.first ≤ r'.first
  last : r'.last = r.last
  room : r'.first ≤ r'.last
  /-- Octets lie in place or in what is no longer in the range. -/
  octets_le : octets + r.first + lo ≤ hi + r'.first
  /-- Items lie in what is no longer in the range. -/
  items_le : items + r.first ≤ r'.first
  nodup : ps.Nodup
  within : ∀ p ∈ ps, lo ≤ p ∧ p < hi ∨ r.first ≤ p ∧ p < r'.first

namespace Takes

variable {lo hi lo' hi' mid mid' start length more octets octets' items items' : Nat} {r r' r'' : Range}
  {ps qs : List Nat}

/-- What lies in place and points to nothing. -/
theorem here (hr : r.first ≤ r.last) (hlo : r.last ≤ lo) (ho : octets ≤ length) :
    Takes lo (lo + length) r r octets 0 (span lo length) where
  apart := hlo
  inPlace := Nat.le_add_right ..
  first := le_rfl
  last := rfl
  room := hr
  octets_le := by omega
  items_le := by omega
  nodup := List.nodup_range'
  within p hp := .inl (mem_span.1 hp)

theorem nothing (hr : r.first ≤ r.last) (hlo : r.last ≤ lo) : Takes lo lo r r 0 0 [] :=
  here hr hlo (Nat.zero_le 0)

/-- The space around what lies in place does not count. -/
theorem widen (h : Takes lo hi r r' octets items ps) (hhi : hi ≤ hi') : Takes lo hi' r r' octets items ps where
  apart := h.apart
  inPlace := h.inPlace.trans hhi
  first := h.first
  last := h.last
  room := h.room
  octets_le := by have := h.octets_le; omega
  items_le := h.items_le
  nodup := h.nodup
  within p hp := (h.within p hp).imp_left fun hin => ⟨hin.1, hin.2.trans_le hhi⟩

/-- One thing behind the other: the second is read in the range that the first has left. -/
theorem append (h : Takes lo mid r r' octets items ps) (h' : Takes mid' hi r' r'' octets' items' qs)
    (hmid : mid ≤ mid') : Takes lo hi r r'' (octets + octets') (items + items') (ps ++ qs) := by
  have apart := h.apart
  have inPlace := h.inPlace
  have inPlace' := h'.inPlace
  have first := h.first
  have first' := h'.first
  have last := h.last
  have last' := h'.last
  have room' := h'.room
  refine ⟨apart, by omega, by omega, by omega, room', ?_, ?_, ?_, ?_⟩
  · have := h.octets_le
    have := h'.octets_le
    omega
  · have := h.items_le
    have := h'.items_le
    omega
  · refine List.nodup_append.2 ⟨h.nodup, h'.nodup, fun p hp q hq => ?_⟩
    -- in place they lie behind one another, elsewhere the range of the second starts where the first has ended
    have := h.within p hp
    have := h'.within q hq
    omega
  · intro p hp
    rcases List.mem_append.1 hp with hp | hp
    · have := h.within p hp
      omega
    · have := h'.within p hp
      omega

/-- A block that is pointed to, and what is in it, with what more it counts for. -/
theorem pointed (hlo : r.last ≤ lo) (hend : start + length ≤ r.last) (hmore : more ≤ length)
    (h : Takes start (start + length) (r.before start) r' octets items ps) :
    Takes lo (lo + 8) r (r.behind start length) octets (more + items) (span lo 8 ++ ps) := by
  have first : r.first ≤ r'.first := h.first
  have room : r'.first ≤ start := h.room.trans h.last.le
  have octets_le : octets + r.first + start ≤ start + length + r'.first := h.octets_le
  have items_le : items + r.first ≤ r'.first := h.items_le
  have within : ∀ p ∈ ps, start ≤ p ∧ p < start + length ∨ r.first ≤ p ∧ p < r'.first := h.within
  refine ⟨hlo, by omega, ?_, rfl, hend, ?_, ?_, ?_, ?_⟩
  · show r.first ≤ start + length
    omega
  · show octets + r.first + lo ≤ lo + 8 + (start + length)
    omega
  · show more + items + r.first ≤ start + length
    omega
  · refine List.nodup_append.2 ⟨List.nodup_range', h.nodup, fun p hp q hq => ?_⟩
    have := mem_span.1 hp
    have := within q hq
    omega
  · intro p hp
    show lo ≤ p ∧ p < lo + 8 ∨ r.first ≤ p ∧ p < start + length
    rcases List.mem_append.1 hp with hp | hp
    · exact .inl (mem_span.1 hp)
    · have := within p hp
      omega

end Takes

/-! ## Reading -/

variable {archive : Bytes}

theorem slice_length_le (archive : Bytes) (start length : Nat) : (slice archive start length).length ≤ length :=
  List.length_take_le ..

/-- Octets that are read as a text are those of the text. -/
theorem utf8_of_ofUtf8? {b : Bytes} {s : String} (h : Text.ofUtf8? b = some s) : Text.utf8 s = b := by
  refine Text.utf8_of_ofUtf8 ?_
  unfold Text.ofUtf8? at h
  unfold Text.ofUtf8
  rw [h]

theorem readText_takes {pos : Nat} {r r' : Range} {s : String} (hr : r.first ≤ r.last) (hpos : r.last ≤ pos)
    (h : readText archive pos r = some (s, r')) :
    Takes pos (pos + 8) r r' (Text.utf8 s).length 0 (places archive .text pos) := by
  rw [places]
  unfold placesElsewhere
  unfold readText at h
  dsimp only at h ⊢
  split at h
  · cases h
  · split at h
    · rename_i hmark
      obtain ⟨t, ht, heq⟩ := Option.map_eq_some_iff.1 h
      cases heq
      rw [if_pos hmark, List.append_nil, utf8_of_ofUtf8? ht]
      exact .here hr hpos ((List.takeWhile_sublist _).length_le.trans (slice_length_le ..))
    · rename_i hmark
      rw [if_neg hmark]
      split at h
      · cases h
      · rw [Option.ite_none_right_eq_some] at h
        obtain ⟨hadmits, h⟩ := h
        obtain ⟨t, ht, heq⟩ := Option.map_eq_some_iff.1 h
        cases heq
        unfold Range.admits at hadmits
        simp only [Bool.and_eq_true, decide_eq_true_eq] at hadmits
        rw [utf8_of_ofUtf8? ht]
        refine .pointed hpos (by omega) (Nat.zero_le _) (.here ?_ le_rfl (slice_length_le ..))
        dsimp only [Range.before]
        omega

theorem readBytes_takes {pos : Nat} {r r' : Range} {b : Bytes} (hpos : r.last ≤ pos)
    (h : readBytes archive pos r = some (b, r')) :
    Takes pos (pos + 8) r r' b.length b.length (places archive .bytes pos) := by
  unfold readBytes at h
  split at h
  · cases h
  · rename_i start count hentered
    cases h
    obtain ⟨htarget, hfirst, hlast⟩ := enter_inv hentered
    have hlength := slice_length_le archive start count
    rw [places, htarget]
    have hcontent : Takes start (start + count) (r.before start) (r.before start)
        (slice archive start count).length 0 (span start count) := .here hfirst le_rfl hlength
    exact .pointed hpos (by omega) hlength hcontent

/-- A layout that is read from places of its own. -/
def Economical (archive : Bytes) (l : Layout) : Prop :=
  ∀ {pos r n r'}, r.first ≤ r.last → r.last ≤ pos → readNode archive l pos r = some (n, r') →
    Takes pos (pos + l.size) r r' n.octets n.items (places archive l pos)

theorem readItems_takes {item : Layout} (ih : Economical archive item) :
    ∀ {count pos : Nat} {r r' : Range} {ns : List Node}, r.first ≤ r.last → r.last ≤ pos →
      readItems (readNode archive item) item.size count pos r = some (ns, r') →
        ns.length = count ∧ Takes pos (pos + count * item.size) r r' (Node.octetsOfAll ns) (Node.itemsOfAll ns)
          (placesOfItems (places archive item) item.size count pos)
  | 0, pos, r, r', ns, hr, hpos, h => by
    cases h
    rw [Nat.zero_mul]
    exact ⟨rfl, .nothing hr hpos⟩
  | count + 1, pos, r, r', ns, hr, hpos, h => by
    rw [readItems] at h
    split at h
    · cases h
    · rename_i n r₁ hn
      split at h
      · cases h
      · rename_i ns r₂ hns
        cases h
        have hfirst := ih hr hpos hn
        have hlast := hfirst.last
        obtain ⟨hcount, hrest⟩ := readItems_takes ih hfirst.room (by omega) hns
        refine ⟨congrArg Nat.succ hcount, ?_⟩
        rw [show pos + (count + 1) * item.size = pos + item.size + count * item.size by ring]
        exact hfirst.append hrest le_rfl

theorem readFields_takes {fields : List Layout} (ih : ∀ l ∈ fields, l.regular = true ∧ Economical archive l) :
    ∀ {pos offset : Nat} {r r' : Range} {ns : List Node}, r.first ≤ r.last → r.last ≤ pos + offset →
      readFields archive fields pos offset r = some (ns, r') →
        Takes (pos + offset) (pos + Layout.endOfFields offset fields) r r' (Node.octetsOfAll ns) (Node.itemsOfAll ns)
          (placesOfFields archive fields pos offset) := by
  induction fields with
  | nil =>
    intro pos offset r r' ns hr hpos h
    rw [readFields] at h
    cases h
    exact .nothing hr hpos
  | cons l ls ihl =>
    intro pos offset r r' ns hr hpos h
    obtain ⟨hregular, hl⟩ := ih l List.mem_cons_self
    have hle := le_alignUp offset (Layout.alignment_pos hregular)
    rw [readFields] at h
    split at h
    · cases h
    · rename_i n r₁ hn
      split at h
      · cases h
      · rename_i ns r₂ hns
        cases h
        have hfirst := hl hr (by omega) hn
        have hlast := hfirst.last
        have hrest := ihl (fun l' hl' => ih l' (List.mem_cons_of_mem _ hl')) hfirst.room (by omega) hns
        -- the space in front of the field counts as if it were taken up
        have hspace : Takes (pos + offset) (pos + alignUp offset l.alignment) r r 0 0 [] :=
          Takes.nothing hr hpos |>.widen (by omega)
        have hall := hspace.append (hfirst.append hrest (by omega)) le_rfl
        rw [Nat.zero_add, Nat.zero_add] at hall
        exact hall

theorem readVariant_takes : ∀ {variants : List (List Layout)},
    (∀ v ∈ variants, ∀ l ∈ v, l.regular = true ∧ Economical archive l) →
    ∀ {tag pos : Nat} {r r' : Range} {ns : List Node}, r.first ≤ r.last → r.last ≤ pos + 1 →
      readVariant archive variants tag pos r = some (ns, r') →
        Takes (pos + 1) (pos + Layout.endOfVariants variants) r r' (Node.octetsOfAll ns) (Node.itemsOfAll ns)
          (placesOfVariant archive variants tag pos)
  | [], _, _, _, _, _, _, _, _, h => by rw [readVariant] at h; cases h
  | v :: vs, ih, 0, pos, r, r', ns, hr, hpos, h => by
    rw [readVariant] at h
    rw [placesOfVariant]
    have hle : Layout.endOfFields 1 v ≤ Layout.endOfVariants (v :: vs) :=
      endOfFields_le_endOfVariants List.mem_cons_self
    exact (readFields_takes (ih v List.mem_cons_self) hr hpos h).widen (Nat.add_le_add_left hle pos)
  | v :: vs, ih, tag + 1, pos, r, r', ns, hr, hpos, h => by
    rw [readVariant] at h
    rw [placesOfVariant]
    have hle : Layout.endOfVariants vs ≤ Layout.endOfVariants (v :: vs) := by
      rw [Layout.endOfVariants.eq_2]
      exact le_max_right ..
    exact (readVariant_takes (fun w hw => ih w (List.mem_cons_of_mem _ hw)) hr hpos h).widen
      (Nat.add_le_add_left hle pos)

theorem economical (archive : Bytes) (l : Layout) (h : l.regular = true) : Economical archive l := by
  induction l using Layout.inductionOn with
  | word size =>
    intro pos r n r' hr hpos hread
    rw [readNode] at hread
    obtain ⟨w, -, heq⟩ := Option.map_eq_some_iff.1 hread
    cases heq
    rw [places, Layout.size]
    exact .here hr hpos (Nat.zero_le _)
  | bool =>
    intro pos r n r' hr hpos hread
    have htakes : Takes pos (pos + 1) r r 0 0 (span pos 1) := .here hr hpos (Nat.zero_le _)
    rw [readNode] at hread
    rw [places, Layout.size]
    split at hread <;> cases hread <;> exact htakes
  | text =>
    intro pos r n r' hr hpos hread
    rw [readNode] at hread
    obtain ⟨⟨s, r₁⟩, hs, heq⟩ := Option.map_eq_some_iff.1 hread
    cases heq
    rw [Layout.size]
    exact readText_takes hr hpos hs
  | bytes =>
    intro pos r n r' hr hpos hread
    rw [readNode] at hread
    obtain ⟨⟨b, r₁⟩, hb, heq⟩ := Option.map_eq_some_iff.1 hread
    cases heq
    rw [Layout.size]
    exact readBytes_takes hpos hb
  | list item ih =>
    intro pos r n r' hr hpos hread
    rw [Layout.regular, Bool.and_eq_true, decide_eq_true_eq] at h
    rw [readNode] at hread
    split at hread
    · cases hread
    · rename_i start count hentered
      obtain ⟨⟨ns, r₁⟩, hns, heq⟩ := Option.map_eq_some_iff.1 hread
      cases heq
      obtain ⟨htarget, hfirst, hlast⟩ := enter_inv hentered
      obtain ⟨hcount, htakes⟩ := readItems_takes (ih h.2) (r := r.before start) hfirst le_rfl hns
      rw [places, Layout.size, htarget, Node.octets, Node.items]
      exact .pointed hpos hlast (hcount ▸ Nat.le_mul_of_pos_right _ h.1) htakes
  | record fields ih =>
    intro pos r n r' hr hpos hread
    rw [Layout.regular] at h
    rw [readNode] at hread
    obtain ⟨⟨ns, r₁⟩, hns, heq⟩ := Option.map_eq_some_iff.1 hread
    cases heq
    have htakes := readFields_takes (fun l hl => ⟨Layout.regular_of_mem h hl, ih l hl (Layout.regular_of_mem h hl)⟩)
      hr (Nat.le_add_right_of_le hpos) hns
    rw [places, Layout.size, Node.octets, Node.items]
    exact htakes.widen (Nat.add_le_add_left (le_alignUp _ (one_le_alignmentOfFields fields)) pos)
  | choice variants ih =>
    intro pos r n r' hr hpos hread
    rw [Layout.regular] at h
    have hregular {v : List Layout} (hv : v ∈ variants) {l : Layout} (hl : l ∈ v) : l.regular = true :=
      Layout.regular_of_mem (Layout.regularFields_of_mem h hv) hl
    rw [readNode] at hread
    split at hread
    · cases hread
    · rename_i tag htag
      obtain ⟨⟨ns, r₁⟩, hns, heq⟩ := Option.map_eq_some_iff.1 hread
      cases heq
      have hfields := readVariant_takes (fun v hv l hl => ⟨hregular hv hl, ih v hv l hl (hregular hv hl)⟩)
        hr (by omega) hns
      have hmark : Takes pos (pos + 1) r r 0 0 (span pos 1) := .here hr hpos (Nat.zero_le _)
      have hall := hmark.append hfields le_rfl
      rw [Nat.zero_add, Nat.zero_add] at hall
      rw [places, Layout.size, htag, Option.getD_some, Node.octets, Node.items]
      exact hall.widen (Nat.add_le_add_left (le_alignUp _ (one_le_alignmentOfVariants variants)) pos)

/-! ## Whole archives -/

/-- What an archive that holds a node has to do with it: the archive is at least as long as what the node holds,
and its places are places of the archive, each of which is looked at once. -/
structure Holds (l : Layout) (archive : Bytes) (n : Node) : Prop where
  octets_le : n.octets ≤ archive.length
  items_le : n.items ≤ archive.length
  nodup : (placesOf l archive).Nodup
  within : ∀ p ∈ placesOf l archive, p < archive.length

theorem holds_of_read {l : Layout} {n : Node} (hl : l.regular = true) (h : read l archive = some n) :
    Holds l archive n := by
  unfold read at h
  dsimp only at h
  split at h
  · rename_i hroot
    unfold Range.admits at hroot
    simp only [Bool.and_eq_true, decide_eq_true_eq] at hroot
    obtain ⟨⟨n, r'⟩, hread, heq⟩ := Option.map_eq_some_iff.1 h
    cases heq
    obtain ⟨start, hstart⟩ : ∃ start : Nat, start + l.size = archive.length := ⟨archive.length - l.size, by omega⟩
    have hplaces : placesOf l archive = places archive l start := by
      unfold placesOf
      rw [show archive.length - l.size = start by omega]
    rw [show ((archive.length : Int) - l.size).toNat = start by omega] at hread
    -- the root is at the end, and all that it points to in front of it
    have htakes : Takes start (start + l.size) ⟨0, start⟩ r' n.octets n.items (places archive l start) :=
      economical archive l hl (Nat.zero_le _) le_rfl hread
    have hroom : r'.first ≤ start := htakes.room.trans htakes.last.le
    have hoctets : n.octets + 0 + start ≤ start + l.size + r'.first := htakes.octets_le
    have hitems : n.items + 0 ≤ r'.first := htakes.items_le
    have hwithin : ∀ p ∈ places archive l start, start ≤ p ∧ p < start + l.size ∨ 0 ≤ p ∧ p < r'.first := htakes.within
    rw [← hplaces] at hwithin
    refine ⟨by dsimp only; omega, by dsimp only; omega, hplaces ▸ htakes.nodup, fun p hp => ?_⟩
    have := hwithin p hp
    omega
  · cases h

end FunctionWorker.Archive
