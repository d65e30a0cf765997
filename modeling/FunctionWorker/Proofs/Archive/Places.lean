/-
The places of an archive that a reader looks at: those of the data that lie in place and, where these point
elsewhere, those of what they point to. They do not depend on what the reader is allowed to enter. An archive
that has the same octets at these places is read in the same way.
-/
import FunctionWorker.Proofs.Archive.RoundTrip

namespace FunctionWorker.Archive

/-! ## Places -/

/-- So many places from a position on. -/
abbrev span (start length : Nat) : List Nat := List.range' start length

/-- Where a distance and a count lead, and the count. -/
def target (archive : Bytes) (pos : Nat) : Nat × Nat :=
  match wordAt archive pos 4, wordAt archive (pos + 4) 4 with
  | some d, some count => (((pos : Int) + distanceOfWord d).toNat, count)
  | _, _ => (0, 0)

/-- The places of a text that does not lie in place. -/
def placesElsewhere (archive : Bytes) (pos : Nat) : List Nat :=
  let b := slice archive pos 8
  if (b.headD 0) &&& 0xc0 ≠ 0x80 then []
  else span ((pos : Int) + distanceOfWord (ofLittleEndian (b.drop 4))).toNat (lengthOfWord (ofLittleEndian (b.take 4)))

/-- The places of so many items that lie one after another. -/
def placesOfItems (item : Nat → List Nat) (size : Nat) : Nat → Nat → List Nat
  | 0, _ => []
  | count + 1, pos => item pos ++ placesOfItems item size count (pos + size)

mutual

/-- The places of a node of a layout. -/
def places (archive : Bytes) : Layout → Nat → List Nat
  | .word size, pos => span pos size
  | .bool, pos => span pos 1
  | .text, pos => span pos 8 ++ placesElsewhere archive pos
  | .bytes, pos => span pos 8 ++ span (target archive pos).1 (target archive pos).2
  | .list item, pos =>
    span pos 8 ++ placesOfItems (places archive item) item.size (target archive pos).2 (target archive pos).1
  | .record fields, pos => placesOfFields archive fields pos 0
  | .choice variants, pos =>
    span pos 1 ++ placesOfVariant archive variants ((wordAt archive pos 1).getD 0) pos

/-- The places of fields that lie together; `pos` is the position of the whole. -/
def placesOfFields (archive : Bytes) : List Layout → Nat → Nat → List Nat
  | [], _, _ => []
  | l :: ls, pos, offset =>
    let start := alignUp offset l.alignment
    places archive l (pos + start) ++ placesOfFields archive ls pos (start + l.size)

/-- The places of the fields of the variant with this tag. -/
def placesOfVariant (archive : Bytes) : List (List Layout) → Nat → Nat → List Nat
  | [], _, _ => []
  | v :: _, 0, pos => placesOfFields archive v pos 1
  | _ :: vs, tag + 1, pos => placesOfVariant archive vs tag pos

end

theorem mem_span {p start length : Nat} : p ∈ span start length ↔ start ≤ p ∧ p < start + length :=
  List.mem_range'_1

/-! ## Archives that agree -/

/-- Two archives have the same octets at some places. -/
def Agrees (a b : Bytes) (ps : List Nat) : Prop := ∀ p ∈ ps, a[p]? = b[p]?

variable {a b : Bytes} {ps qs : List Nat} {pos : Nat}

theorem Agrees.left (h : Agrees a b (ps ++ qs)) : Agrees a b ps := fun p hp => h p (List.mem_append_left _ hp)

theorem Agrees.right (h : Agrees a b (ps ++ qs)) : Agrees a b qs := fun p hp => h p (List.mem_append_right _ hp)

theorem Agrees.slice {length : Nat} (h : Agrees a b (span pos length)) : slice a pos length = slice b pos length := by
  refine List.ext_getElem? fun i => ?_
  unfold Archive.slice
  by_cases hi : i < length
  · rw [List.getElem?_take_of_lt hi, List.getElem?_take_of_lt hi, List.getElem?_drop, List.getElem?_drop]
    exact h (pos + i) (mem_span.2 (by omega))
  · rw [List.getElem?_take_eq_none (by omega), List.getElem?_take_eq_none (by omega)]

theorem Agrees.wordAt {size : Nat} (h : Agrees a b (span pos size)) : wordAt a pos size = wordAt b pos size := by
  unfold Archive.wordAt
  rw [h.slice]

/-- The two words of a pointer. -/
theorem Agrees.words (h : Agrees a b (span pos 8)) :
    Archive.wordAt a pos 4 = Archive.wordAt b pos 4 ∧ Archive.wordAt a (pos + 4) 4 = Archive.wordAt b (pos + 4) 4 := by
  constructor
  · exact Agrees.wordAt fun p hp => h p (mem_span.2 (by have := mem_span.1 hp; omega))
  · exact Agrees.wordAt fun p hp => h p (mem_span.2 (by have := mem_span.1 hp; omega))

theorem Agrees.enter (h : Agrees a b (span pos 8)) (size alignment : Nat) (r : Range) :
    enter a pos size alignment r = enter b pos size alignment r := by
  unfold Archive.enter
  rw [h.words.1, h.words.2]

/-- What is entered is what the distance and the count lead to, and it lies in the range. -/
theorem enter_inv {archive : Bytes} {size alignment start count : Nat} {r : Range}
    (h : enter archive pos size alignment r = some (start, count)) :
    target archive pos = (start, count) ∧ r.first ≤ start ∧ start + count * size ≤ r.last := by
  unfold enter at h
  split at h
  · rename_i d n hd hn
    rw [Option.ite_none_right_eq_some] at h
    obtain ⟨hadmits, hstart⟩ := h
    cases hstart
    unfold Range.admits at hadmits
    simp only [Bool.and_eq_true, decide_eq_true_eq] at hadmits
    obtain ⟨⟨hfirst, hlast⟩, -⟩ := hadmits
    refine ⟨?_, by omega, by push_cast at hlast; omega⟩
    unfold target
    rw [hd, hn]
  · cases h

theorem Agrees.readText (h : Agrees a b (places a .text pos)) (r : Range) : readText a pos r = readText b pos r := by
  rw [places] at h
  have hslice := h.left.slice
  have helsewhere := h.right
  unfold placesElsewhere at helsewhere
  unfold Archive.readText
  rw [← hslice]
  dsimp only at helsewhere ⊢
  by_cases hmark : (Archive.slice a pos 8).headD 0 &&& 0xc0 ≠ 0x80
  · rw [if_pos hmark, if_pos hmark]
  · rw [if_neg hmark] at helsewhere
    rw [if_neg hmark, if_neg hmark, helsewhere.slice]

theorem Agrees.readBytes (h : Agrees a b (places a .bytes pos)) (r : Range) :
    readBytes a pos r = readBytes b pos r := by
  rw [places] at h
  unfold Archive.readBytes
  rw [← h.left.enter]
  cases hentered : Archive.enter a pos 1 1 r with
  | none => rfl
  | some entered =>
    obtain ⟨start, count⟩ := entered
    have hcontent := h.right
    rw [(enter_inv hentered).1] at hcontent
    dsimp only
    rw [hcontent.slice]

/-- A layout that is read alike in two archives that agree at its places. -/
def ReadsAlike (a b : Bytes) (l : Layout) : Prop :=
  ∀ pos r, Agrees a b (places a l pos) → readNode a l pos r = readNode b l pos r

theorem readItems_alike {item : Layout} (ih : ReadsAlike a b item) : ∀ (count pos : Nat) (r : Range),
    Agrees a b (placesOfItems (places a item) item.size count pos) →
      readItems (readNode a item) item.size count pos r = readItems (readNode b item) item.size count pos r
  | 0, _, _, _ => rfl
  | count + 1, pos, r, h => by
    rw [placesOfItems] at h
    rw [readItems, readItems, ← ih pos r h.left]
    cases readNode a item pos r with
    | none => rfl
    | some result =>
      dsimp only
      rw [readItems_alike ih count (pos + item.size) result.2 h.right]

theorem readFields_alike {fields : List Layout} (ih : ∀ l ∈ fields, ReadsAlike a b l) :
    ∀ (pos offset : Nat) (r : Range), Agrees a b (placesOfFields a fields pos offset) →
      readFields a fields pos offset r = readFields b fields pos offset r := by
  induction fields with
  | nil => intro pos offset r _; rw [readFields, readFields]
  | cons l ls ihl =>
    intro pos offset r h
    rw [placesOfFields] at h
    rw [readFields, readFields, ← ih l List.mem_cons_self _ r h.left]
    cases readNode a l (pos + alignUp offset l.alignment) r with
    | none => rfl
    | some result =>
      dsimp only
      rw [ihl (fun l' hl' => ih l' (List.mem_cons_of_mem _ hl')) pos _ result.2 h.right]

theorem readVariant_alike : ∀ {variants : List (List Layout)}, (∀ v ∈ variants, ∀ l ∈ v, ReadsAlike a b l) →
    ∀ (tag pos : Nat) (r : Range), Agrees a b (placesOfVariant a variants tag pos) →
      readVariant a variants tag pos r = readVariant b variants tag pos r
  | [], _, _, _, _, _ => by rw [readVariant, readVariant]
  | v :: _, ih, 0, pos, r, h => by
    rw [placesOfVariant] at h
    rw [readVariant, readVariant]
    exact readFields_alike (ih v List.mem_cons_self) pos 1 r h
  | _ :: vs, ih, tag + 1, pos, r, h => by
    rw [placesOfVariant] at h
    rw [readVariant, readVariant]
    exact readVariant_alike (fun v hv => ih v (List.mem_cons_of_mem _ hv)) tag pos r h

/-- Only the octets at the places of a layout count for what is read. -/
theorem readsAlike (a b : Bytes) (l : Layout) : ReadsAlike a b l := by
  induction l using Layout.inductionOn with
  | word size =>
    intro pos r h
    rw [places] at h
    rw [readNode, readNode, h.wordAt]
  | bool =>
    intro pos r h
    rw [places] at h
    rw [readNode, readNode, h.wordAt]
  | text =>
    intro pos r h
    rw [readNode, readNode, h.readText]
  | bytes =>
    intro pos r h
    rw [readNode, readNode, h.readBytes]
  | list item ih =>
    intro pos r h
    rw [places] at h
    rw [readNode, readNode, ← h.left.enter]
    cases hentered : enter a pos item.size item.alignment r with
    | none => rfl
    | some entered =>
      obtain ⟨start, count⟩ := entered
      have hitems := h.right
      rw [(enter_inv hentered).1] at hitems
      dsimp only
      rw [readItems_alike ih count start (r.before start) hitems]
  | record fields ih =>
    intro pos r h
    rw [places] at h
    rw [readNode, readNode, readFields_alike ih pos 0 r h]
  | choice variants ih =>
    intro pos r h
    rw [places] at h
    rw [readNode, readNode, ← h.left.wordAt]
    have hfields := h.right
    cases htag : wordAt a pos 1 with
    | none => rfl
    | some tag =>
      rw [htag, Option.getD_some] at hfields
      dsimp only
      rw [readVariant_alike ih tag pos r hfields]

/-- The places of a whole archive, whose root is at its end. -/
def placesOf (l : Layout) (archive : Bytes) : List Nat := places archive l (archive.length - l.size)

/-- An archive of the same length that agrees with another one at its places holds the same data. -/
theorem read_alike {l : Layout} (hlength : b.length = a.length) (h : Agrees a b (placesOf l a)) :
    read l b = read l a := by
  unfold read
  rw [hlength]
  dsimp only
  rw [show ((a.length : Int) - l.size).toNat = a.length - l.size by omega, ← readsAlike a b l _ _ h]

end FunctionWorker.Archive
