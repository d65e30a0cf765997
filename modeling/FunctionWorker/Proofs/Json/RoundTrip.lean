/-
Printing and reading. Every value that a text can keep is read back from its printed form: the reader finds each
value up to the separator or the bracket after it, whatever that is, and the tree it finds stands for the value.
-/
import FunctionWorker.Proofs.Json.Numbers
import FunctionWorker.Proofs.Json.Strings

namespace FunctionWorker.Json

open Raw (octet)

variable {depth fuel : Nat} {j : Json} {items : List Json} {members : List (String × Json)}
  {bytes key rest more after : Bytes} {v : Raw} {vs : List Raw} {ms : List (Bytes × Raw)}

/-! ## Values that a text keeps -/

/-- Values that are read as they were printed, with arrays and objects nested at most `depth` deep: whole numbers
are those of 64 bits, there are no doubles, and the keys of an object stand in order, each once. -/
inductive Plain : Nat → Json → Prop where
  | null {depth : Nat} : Plain depth .null
  | bool {depth : Nat} (b : Bool) : Plain depth (.bool b)
  | int {depth : Nat} {i : Int} (exact : isExact i = true) : Plain depth (.int i)
  | text {depth : Nat} (s : String) : Plain depth (.text s)
  | array {depth : Nat} {items : List Json} (plain : ∀ j ∈ items, Plain depth j) : Plain (depth + 1) (.array items)
  | object {depth : Nat} {members : List (String × Json)} (ascending : members.Pairwise fun m n => m.1 < n.1)
      (plain : ∀ m ∈ members, Plain depth m.2) : Plain (depth + 1) (.object members)

/-! ## Objects -/

theorem insert_last {acc : List (String × Json)} {k : String} (h : ∀ m ∈ acc, m.1 < k) (value : Json) :
    insert k value acc = acc ++ [(k, value)] := by
  induction acc with
  | nil => rfl
  | cons m acc ih =>
    have hm := h m (List.mem_cons_self ..)
    rw [insert, if_neg (String.lt_asymm hm), if_neg fun heq : m.1 = k => String.lt_irrefl k (heq ▸ hm),
      ih fun x hx => h x (List.mem_cons_of_mem _ hx)]
    rfl

/-- Members whose keys stand in order make an object as they are. -/
theorem ofMembers_ascending (h : members.Pairwise fun m n => m.1 < n.1) : ofMembers members = .object members := by
  -- by induction on the members that are left, behind those that stand in the object already
  have hfold (ms acc : List (String × Json)) (h : (acc ++ ms).Pairwise fun m n => m.1 < n.1) :
      ms.foldl (fun acc m => insert m.1 m.2 acc) acc = acc ++ ms := by
    induction ms generalizing acc with
    | nil => exact (List.append_nil acc).symm
    | cons m ms ih =>
      have hbefore : ∀ x ∈ acc, x.1 < m.1 := fun x hx =>
        (List.pairwise_append.1 h).2.2 x hx m (List.mem_cons_self ..)
      rw [List.foldl_cons, insert_last hbefore, ih _ (by simpa using h), List.append_assoc]
      rfl
  exact congrArg Json.object (hfold members [] h)

theorem mem_of_mem_insert {k : String} {value : Json} {m : String × Json} (h : m ∈ insert k value members) :
    m = (k, value) ∨ m ∈ members := by
  induction members with
  | nil => exact .inl (List.mem_singleton.1 h)
  | cons n members ih =>
    rw [insert] at h
    split_ifs at h
    · exact List.mem_cons.1 h
    · exact (List.mem_cons.1 h).imp_right (List.mem_cons_of_mem _)
    · rcases List.mem_cons.1 h with rfl | h
      · exact .inr (List.mem_cons_self ..)
      · exact (ih h).imp_right (List.mem_cons_of_mem _)

/-- A member is put in where its key belongs. -/
theorem insert_ascending (h : members.Pairwise fun m n => m.1 < n.1) (k : String) (value : Json) :
    (insert k value members).Pairwise fun m n => m.1 < n.1 := by
  induction members with
  | nil => exact List.pairwise_singleton ..
  | cons m members ih =>
    obtain ⟨hfirst, hmembers⟩ := List.pairwise_cons.1 h
    rw [insert]
    split_ifs with hbefore hsame
    · refine List.pairwise_cons.2 ⟨fun n hn => ?_, h⟩
      rcases List.mem_cons.1 hn with rfl | hn
      · exact hbefore
      · exact String.lt_trans hbefore (hfirst n hn)
    · exact List.pairwise_cons.2 ⟨fun n hn => hsame ▸ hfirst n hn, hmembers⟩
    · refine List.pairwise_cons.2 ⟨fun n hn => ?_, ih hmembers⟩
      rcases mem_of_mem_insert hn with rfl | hn
      · by_contra hafter
        exact hsame (String.le_antisymm (String.not_lt.1 hbefore) (String.not_lt.1 hafter))
      · exact hfirst n hn

/-- An object that is made of members in any order, whether or not keys are repeated, is kept if they are. -/
theorem Plain.ofMembers (h : ∀ m ∈ members, Plain depth m.2) : Plain (depth + 1) (Json.ofMembers members) := by
  have hfold (ms acc : List (String × Json)) (hms : ∀ m ∈ ms, Plain depth m.2) (hacc : ∀ m ∈ acc, Plain depth m.2)
      (hascending : acc.Pairwise fun m n => m.1 < n.1) :
      Plain (depth + 1) (.object (ms.foldl (fun acc m => insert m.1 m.2 acc) acc)) := by
    induction ms generalizing acc with
    | nil => exact .object hascending hacc
    | cons m ms ih =>
      refine ih _ (fun n hn => hms n (List.mem_cons_of_mem _ hn)) (fun n hn => ?_)
        (insert_ascending hascending m.1 m.2)
      rcases mem_of_mem_insert hn with rfl | hn
      · exact hms m (List.mem_cons_self ..)
      · exact hacc n hn
  exact hfold members [] h nofun .nil

/-! ## Octets of printed values -/

theorem encode_cons_octet {c : Char} (h : c.toNat < 0x80) (cs : List Char) :
    Text.encode (c :: cs) = octet c :: Text.encode cs := by
  rw [Text.encode_cons, Text.utf8EncodeChar_ascii h]
  rfl

theorem encode_printText (s : String) (rest : Bytes) :
    Text.encode (printText s) ++ rest = octet '"' :: (escaped s ++ octet '"' :: rest) := by
  unfold printText escaped
  rw [List.cons_append, encode_cons_octet (by decide), Text.encode_append, encode_cons_octet (by decide)]
  simp

theorem printItems_more (j k : Json) (items : List Json) :
    printItems (j :: k :: items) = print j ++ ',' :: printItems (k :: items) := by
  rw [printItems]
  nofun

theorem printMembers_more (k : String) (j : Json) (m : String × Json) (members : List (String × Json)) :
    printMembers ((k, j) :: m :: members) = printText k ++ ':' :: print j ++ ',' :: printMembers (m :: members) := by
  rw [printMembers]
  nofun

theorem encode_items_last (j : Json) (rest : Bytes) :
    Text.encode (printItems [j]) ++ rest = Text.encode (print j) ++ octet ']' :: rest := by
  rw [printItems, Text.encode_append, encode_cons_octet (by decide), List.append_assoc]
  rfl

theorem encode_items_more (j k : Json) (items : List Json) (rest : Bytes) :
    Text.encode (printItems (j :: k :: items)) ++ rest =
      Text.encode (print j) ++ octet ',' :: (Text.encode (printItems (k :: items)) ++ rest) := by
  rw [printItems_more, Text.encode_append, encode_cons_octet (by decide), List.append_assoc]
  rfl

theorem encode_members_last (k : String) (j : Json) (rest : Bytes) :
    Text.encode (printMembers [(k, j)]) ++ rest =
      octet '"' :: (escaped k ++ octet '"' :: octet ':' :: (Text.encode (print j) ++ octet '\x7d' :: rest)) := by
  simp only [printMembers, Text.encode_append, encode_cons_octet (show ':'.toNat < 0x80 by decide),
    encode_cons_octet (show '\x7d'.toNat < 0x80 by decide), List.append_assoc]
  exact encode_printText k _

theorem encode_members_more (k : String) (j : Json) (m : String × Json) (members : List (String × Json))
    (rest : Bytes) : Text.encode (printMembers ((k, j) :: m :: members)) ++ rest =
      octet '"' :: (escaped k ++ octet '"' :: octet ':' :: (Text.encode (print j) ++
        octet ',' :: (Text.encode (printMembers (m :: members)) ++ rest))) := by
  simp only [printMembers_more, Text.encode_append, encode_cons_octet (show ':'.toNat < 0x80 by decide),
    encode_cons_octet (show ','.toNat < 0x80 by decide), List.append_assoc]
  exact encode_printText k _

/-- The items of an array start with the first one. -/
theorem printItems_prefix (j : Json) (items : List Json) : ∃ tail, printItems (j :: items) = print j ++ tail := by
  cases items with
  | nil => exact ⟨_, by rw [printItems]⟩
  | cons k items => exact ⟨_, printItems_more j k items⟩

/-- The members of an object start with a quote. -/
theorem encode_members_quote (m : String × Json) (members : List (String × Json)) (rest : Bytes) :
    ∃ bytes, Text.encode (printMembers (m :: members)) ++ rest = octet '"' :: bytes := by
  obtain ⟨k, j⟩ := m
  cases members with
  | nil => exact ⟨_, encode_members_last k j rest⟩
  | cons n members => exact ⟨_, encode_members_more k j n members rest⟩

/-! ## Single values -/

theorem skip_cons {b : UInt8} (h : Raw.isSpace b = false) (bs : Bytes) : Raw.skip (b :: bs) = b :: bs :=
  List.dropWhile_cons_of_neg (by simp [h])

theorem digit_starts {b : UInt8} (h : Raw.isDigit b = true) :
    Raw.isSpace b = false ∧ b ∉ [octet '"', octet '[', octet '\x7b', octet ']'] := by
  -- none of the octets in question is a digit
  have hnone : ∀ x ∈ [0x20, 0x0a, 0x0d, 0x09] ++ [octet '"', octet '[', octet '\x7b', octet ']'],
      Raw.isDigit x = false := by decide +kernel
  have hne : ∀ x ∈ [0x20, 0x0a, 0x0d, 0x09] ++ [octet '"', octet '[', octet '\x7b', octet ']'], b ≠ x := by
    rintro x hx rfl
    rw [hnone b hx] at h
    cases h
  refine ⟨?_, fun hb => hne b (List.mem_append_right _ hb) rfl⟩
  simp only [Raw.isSpace, Bool.or_eq_false_iff, beq_eq_false_iff_ne]
  exact ⟨⟨⟨hne _ (by decide), hne _ (by decide)⟩, hne _ (by decide)⟩, hne _ (by decide)⟩

/-- What is neither a string nor a list starts with none of their signs. -/
theorem scalar_starts {x : Raw × Bytes} (h : Raw.scalar bytes = some x) : ∃ b bs, bytes = b :: bs ∧
    Raw.isSpace b = false ∧ b ∉ [octet '"', octet '[', octet '\x7b', octet ']'] := by
  cases bytes with
  | nil => cases h
  | cons b bs =>
    refine ⟨b, bs, rfl, ?_⟩
    simp only [Raw.scalar] at h
    split_ifs at h with hsign hdigit hnull htrue hfalse
    · rw [hsign]
      decide
    · exact digit_starts hdigit
    · rw [hnull]
      decide
    · rw [htrue]
      decide
    · rw [hfalse]
      decide

theorem value_scalar {x : Raw × Bytes} (h : Raw.scalar bytes = some x) : Raw.value (fuel + 1) bytes = some x := by
  obtain ⟨b, bs, rfl, hspace, hsigns⟩ := scalar_starts h
  simp only [List.mem_cons, List.not_mem_nil, or_false, not_or] at hsigns
  rw [Raw.value, skip_cons hspace]
  simp only [hsigns, if_false]
  exact h

theorem word_printed (w : String) (rest : Bytes) : Raw.word w (Text.encode w.toList ++ rest) = some rest := by
  unfold Raw.word
  rw [Text.utf8_eq_encode]
  refine (if_pos (List.isPrefixOf_iff_prefix.2 (List.prefix_append ..))).trans ?_
  rw [List.drop_left]

theorem value_text (s : String) (rest : Bytes) :
    Raw.value (fuel + 1) (Text.encode (printText s) ++ rest) = some (.text (escaped s), rest) := by
  rw [encode_printText, Raw.value, skip_cons (by decide)]
  simp only [if_true, stringBody_escaped]
  rfl

/-! ## Reading lists -/

/-- Once an item is read, what stands after it tells whether there are more. -/
theorem items_entry {b : UInt8} (h : Raw.value fuel bytes = some (v, b :: rest)) (hspace : Raw.isSpace b = false) :
    Raw.items (fuel + 1) bytes =
      if b = octet ',' then (Raw.items fuel rest).map fun (vs, r) => (v :: vs, r)
      else if b = octet ']' then some ([v], rest) else none := by
  rw [Raw.items, h]
  simp only [skip_cons hspace]

theorem items_last (h : Raw.value fuel bytes = some (v, octet ']' :: rest)) :
    Raw.items (fuel + 1) bytes = some ([v], rest) := by
  rw [items_entry h (by decide)]
  rfl

theorem items_more (h : Raw.value fuel bytes = some (v, octet ',' :: rest))
    (hmore : Raw.items fuel rest = some (vs, after)) : Raw.items (fuel + 1) bytes = some (v :: vs, after) := by
  rw [items_entry h (by decide), hmore]
  rfl

/-- Once a member is read, what stands after it tells whether there are more. -/
theorem members_entry {b : UInt8} (hkey : Raw.stringBody bytes = some (key, octet ':' :: rest))
    (h : Raw.value fuel rest = some (v, b :: more)) (hspace : Raw.isSpace b = false) :
    Raw.members (fuel + 1) (octet '"' :: bytes) =
      if b = octet ',' then (Raw.members fuel more).map fun (ms, r) => ((key, v) :: ms, r)
      else if b = octet '\x7d' then some ([(key, v)], more) else none := by
  rw [Raw.members, skip_cons (by decide)]
  have hcolon : Raw.isSpace (octet ':') = false := by decide
  simp only [hkey, skip_cons hcolon, h, skip_cons hspace]
  rfl

theorem members_last (hkey : Raw.stringBody bytes = some (key, octet ':' :: rest))
    (h : Raw.value fuel rest = some (v, octet '\x7d' :: after)) :
    Raw.members (fuel + 1) (octet '"' :: bytes) = some ([(key, v)], after) := by
  rw [members_entry hkey h (by decide)]
  rfl

theorem members_more (hkey : Raw.stringBody bytes = some (key, octet ':' :: rest))
    (h : Raw.value fuel rest = some (v, octet ',' :: more)) (hmore : Raw.members fuel more = some (ms, after)) :
    Raw.members (fuel + 1) (octet '"' :: bytes) = some ((key, v) :: ms, after) := by
  rw [members_entry hkey h (by decide), hmore]
  rfl

theorem value_array {b : UInt8} {bs : Bytes} (hbytes : bytes = b :: bs) (hspace : Raw.isSpace b = false)
    (hclosing : b ≠ octet ']') (h : Raw.items fuel bytes = some (vs, after)) :
    Raw.value (fuel + 1) (octet '[' :: bytes) = some (.array vs, after) := by
  rw [hbytes] at h ⊢
  rw [Raw.value, skip_cons (by decide)]
  simp only [show octet '[' ≠ octet '"' by decide, skip_cons hspace, hclosing, if_true, if_false, h]
  rfl

theorem value_object (h : Raw.members fuel (octet '"' :: bytes) = some (ms, after)) :
    Raw.value (fuel + 1) (octet '\x7b' :: octet '"' :: bytes) = some (.object ms, after) := by
  have hquote : Raw.isSpace (octet '"') = false := by decide
  rw [Raw.value, skip_cons (by decide)]
  simp only [show octet '\x7b' ≠ octet '"' by decide, show octet '\x7b' ≠ octet '[' by decide,
    show octet '"' ≠ octet '\x7d' by decide, skip_cons hquote, if_true, if_false, h]
  rfl

/-! ## Reading what is printed -/

/-- The tree that a printed value is read as, whatever delimiter stands after it, and that stands for the value. -/
structure ReadsAs (depth : Nat) (j : Json) (r : Raw) : Prop where
  /-- The value is not taken for a blank or for the end of an array. -/
  starts : ∃ b bs, Text.encode (print j) = b :: bs ∧ Raw.isSpace b = false ∧ b ≠ octet ']'
  /-- Every nested call reads a part that is shorter by a character at least. -/
  value : ∀ fuel rest, (print j).length ≤ fuel + 1 → Delimited rest →
    Raw.value (fuel + 1) (Text.encode (print j) ++ rest) = some (r, rest)
  stands : Raw.toJson depth r = some j

variable {r : Raw}

theorem ReadsAs.length_pos (h : ReadsAs depth j r) : 0 < (print j).length := by
  obtain ⟨b, bs, hoctets, -⟩ := h.starts
  refine List.length_pos_of_ne_nil fun hnil => ?_
  rw [hnil] at hoctets
  cases hoctets

/-- A value is read by a call whose fuel is no less than its characters. -/
theorem ReadsAs.read (h : ReadsAs depth j r) (hfuel : (print j).length ≤ fuel) (hrest : Delimited rest) :
    Raw.value fuel (Text.encode (print j) ++ rest) = some (r, rest) := by
  cases fuel with
  | zero => exact absurd h.length_pos (Nat.not_lt.2 hfuel)
  | succ fuel => exact h.value fuel rest hfuel hrest

theorem ReadsAs.of_scalar
    (hscalar : ∀ rest, Delimited rest → Raw.scalar (Text.encode (print j) ++ rest) = some (r, rest))
    (hstands : Raw.toJson depth r = some j) : ReadsAs depth j r where
  starts := by
    obtain ⟨b, bs, hoctets, hspace, hsigns⟩ := scalar_starts (hscalar [] .nil)
    rw [List.append_nil] at hoctets
    exact ⟨b, bs, hoctets, hspace, fun hb => hsigns (by simp [hb])⟩
  value _ rest _ hrest := value_scalar (hscalar rest hrest)
  stands := hstands

theorem readsAs_null : ReadsAs depth .null .null := by
  refine .of_scalar (fun rest _ => ?_) rfl
  have hword := word_printed "null" rest
  show Raw.scalar (Text.encode "null".toList ++ rest) = _
  rw [show Text.encode "null".toList = [0x6e, 0x75, 0x6c, 0x6c] by decide] at hword ⊢
  exact congrArg (Option.map fun r => (Raw.null, r)) hword

theorem readsAs_bool (b : Bool) : ReadsAs depth (.bool b) (.bool b) := by
  refine .of_scalar (fun rest _ => ?_) rfl
  cases b with
  | true =>
    have hword := word_printed "true" rest
    show Raw.scalar (Text.encode "true".toList ++ rest) = _
    rw [show Text.encode "true".toList = [0x74, 0x72, 0x75, 0x65] by decide] at hword ⊢
    exact congrArg (Option.map fun r => (Raw.bool true, r)) hword
  | false =>
    have hword := word_printed "false" rest
    show Raw.scalar (Text.encode "false".toList ++ rest) = _
    rw [show Text.encode "false".toList = [0x66, 0x61, 0x6c, 0x73, 0x65] by decide] at hword ⊢
    exact congrArg (Option.map fun r => (Raw.bool false, r)) hword

theorem readsAs_int {i : Int} (h : isExact i = true) : ReadsAs depth (.int i) (.number (writtenInt i)) := by
  refine .of_scalar (fun rest hrest => scalar_printInt i hrest) ?_
  rw [Raw.toJson, value?_writtenInt h]

theorem readsAs_text (s : String) : ReadsAs depth (.text s) (.text (escaped s)) where
  starts := ⟨_, _, by rw [print, ← List.append_nil (Text.encode _), encode_printText], by decide, by decide⟩
  value _ rest _ _ := value_text s rest
  stands := by
    rw [Raw.toJson, text?_escaped]
    rfl

/-- The items of an array are read to its end. -/
theorem items_read (h : ∀ j ∈ items, ∃ r, ReadsAs depth j r) (hitems : items ≠ []) :
    ∃ rs, (∀ fuel rest, (printItems items).length ≤ fuel →
      Raw.items fuel (Text.encode (printItems items) ++ rest) = some (rs, rest)) ∧
    Raw.toItems depth rs = some items := by
  induction items with
  | nil => exact absurd rfl hitems
  | cons j items ih =>
    obtain ⟨r, hr⟩ := h j (List.mem_cons_self ..)
    cases items with
    | nil =>
      refine ⟨[r], fun fuel rest hfuel => ?_, ?_⟩
      -- the bracket pays for the call that reads the items, the rest for the item
      · rw [printItems, List.length_append, List.length_singleton] at hfuel
        obtain ⟨fuel, rfl⟩ := Nat.exists_eq_add_one_of_ne_zero (by omega : fuel ≠ 0)
        rw [encode_items_last]
        exact items_last (hr.read (by omega) (.cons _ (by decide)))
      · rw [Raw.toItems, hr.stands, Raw.toItems]
        rfl
    | cons k items =>
      obtain ⟨rs, hread, hstands⟩ := ih (fun x hx => h x (List.mem_cons_of_mem _ hx)) nofun
      refine ⟨r :: rs, fun fuel rest hfuel => ?_, ?_⟩
      · rw [printItems_more, List.length_append, List.length_cons] at hfuel
        obtain ⟨fuel, rfl⟩ := Nat.exists_eq_add_one_of_ne_zero (by omega : fuel ≠ 0)
        rw [encode_items_more]
        exact items_more (hr.read (by omega) (.cons _ (by decide))) (hread fuel rest (by omega))
      · rw [Raw.toItems, hr.stands, hstands]
        rfl

/-- The members of an object are read to its end. -/
theorem members_read (h : ∀ m ∈ members, ∃ r, ReadsAs depth m.2 r) (hmembers : members ≠ []) :
    ∃ rs, (∀ fuel rest, (printMembers members).length ≤ fuel →
      Raw.members fuel (Text.encode (printMembers members) ++ rest) = some (rs, rest)) ∧
    Raw.toMembers depth rs = some members := by
  induction members with
  | nil => exact absurd rfl hmembers
  | cons m members ih =>
    obtain ⟨k, j⟩ := m
    obtain ⟨r, hr⟩ : ∃ r, ReadsAs depth j r := h (k, j) (List.mem_cons_self ..)
    cases members with
    | nil =>
      refine ⟨[(escaped k, r)], fun fuel rest hfuel => ?_, ?_⟩
      · simp only [printMembers, List.length_append, List.length_cons] at hfuel
        obtain ⟨fuel, rfl⟩ := Nat.exists_eq_add_one_of_ne_zero (by omega : fuel ≠ 0)
        rw [encode_members_last]
        exact members_last (stringBody_escaped k _) (hr.read (by omega) (.cons _ (by decide)))
      · simp only [Raw.toMembers, text?_escaped, hr.stands]
        rfl
    | cons n members =>
      obtain ⟨rs, hread, hstands⟩ := ih (fun x hx => h x (List.mem_cons_of_mem _ hx)) nofun
      refine ⟨(escaped k, r) :: rs, fun fuel rest hfuel => ?_, ?_⟩
      · simp only [printMembers_more, List.length_append, List.length_cons] at hfuel
        obtain ⟨fuel, rfl⟩ := Nat.exists_eq_add_one_of_ne_zero (by omega : fuel ≠ 0)
        rw [encode_members_more]
        exact members_more (stringBody_escaped k _) (hr.read (by omega) (.cons _ (by decide)))
          (hread fuel rest (by omega))
      · simp only [Raw.toMembers, text?_escaped, hr.stands, hstands]
        rfl

theorem readsAs_array (h : ∀ j ∈ items, ∃ r, ReadsAs depth j r) : ∃ r, ReadsAs (depth + 1) (.array items) r := by
  have hstarts : ∃ b bs, Text.encode (print (.array items)) = b :: bs ∧ Raw.isSpace b = false ∧ b ≠ octet ']' :=
    ⟨_, _, by rw [print, encode_cons_octet (by decide)], by decide, by decide⟩
  cases items with
  | nil => exact ⟨.array [], hstarts, fun _ _ _ _ => rfl, rfl⟩
  | cons j items =>
    obtain ⟨rs, hread, hstands⟩ := items_read h nofun
    refine ⟨.array rs, hstarts, fun fuel rest hfuel _ => ?_, ?_⟩
    · rw [print, List.length_cons] at hfuel
      -- the first item is not taken for the bracket of an empty array
      obtain ⟨r, hr⟩ := h j (List.mem_cons_self ..)
      obtain ⟨b, bs, hoctets, hspace, hclosing⟩ := hr.starts
      obtain ⟨tail, htail⟩ := printItems_prefix j items
      have hfirst : Text.encode (printItems (j :: items)) ++ rest = b :: (bs ++ (Text.encode tail ++ rest)) := by
        rw [htail, Text.encode_append, hoctets, List.append_assoc]
        rfl
      rw [print, encode_cons_octet (by decide), List.cons_append]
      exact value_array hfirst hspace hclosing (hread fuel rest (by omega))
    · rw [Raw.toJson, hstands]
      rfl

theorem readsAs_object (h : ∀ m ∈ members, ∃ r, ReadsAs depth m.2 r)
    (hascending : members.Pairwise fun m n => m.1 < n.1) : ∃ r, ReadsAs (depth + 1) (.object members) r := by
  have hstarts : ∃ b bs, Text.encode (print (.object members)) = b :: bs ∧ Raw.isSpace b = false ∧ b ≠ octet ']' :=
    ⟨_, _, by rw [print, encode_cons_octet (by decide)], by decide, by decide⟩
  cases members with
  | nil => exact ⟨.object [], hstarts, fun _ _ _ _ => rfl, rfl⟩
  | cons m members =>
    obtain ⟨rs, hread, hstands⟩ := members_read h nofun
    refine ⟨.object rs, hstarts, fun fuel rest hfuel _ => ?_, ?_⟩
    · rw [print, List.length_cons] at hfuel
      have hmembers := hread fuel rest (by omega)
      obtain ⟨bytes, hbytes⟩ := encode_members_quote m members rest
      rw [hbytes] at hmembers
      rw [print, encode_cons_octet (by decide), List.cons_append, hbytes]
      exact value_object hmembers
    · rw [Raw.toJson, hstands]
      exact congrArg some (ofMembers_ascending hascending)

/-- Every value that a text can keep is read as it is printed. -/
theorem Plain.readsAs (h : Plain depth j) : ∃ r, ReadsAs depth j r := by
  induction h with
  | null => exact ⟨_, readsAs_null⟩
  | bool b => exact ⟨_, readsAs_bool b⟩
  | int exact => exact ⟨_, readsAs_int exact⟩
  | text s => exact ⟨_, readsAs_text s⟩
  | array _ ih => exact readsAs_array ih
  | object ascending _ ih => exact readsAs_object ih ascending

/-- The text of a value is read as the value. -/
theorem Plain.ofText_render (h : Plain maxDepth j) : ofText j.render = some j := by
  obtain ⟨r, hr⟩ := h.readsAs
  have hlength := Text.length_le_encode (print j)
  have hvalue : Raw.value (2 * (Text.encode (print j)).length + 2) (Text.encode (print j) ++ []) = some (r, []) :=
    hr.read (by omega) .nil
  rw [List.append_nil] at hvalue
  have hraw : Raw.ofBytes (Text.encode (print j)) = some r := by
    unfold Raw.ofBytes
    rw [hvalue]
    rfl
  unfold ofText ofBytes render
  rw [Text.utf8_ofList, hraw]
  exact hr.stands

end FunctionWorker.Json
