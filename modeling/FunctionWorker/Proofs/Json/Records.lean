/-
Records in objects. The text of an object is read as an object with the same members in the same order, and each
field of a record is found among them, wherever it stands. A record of texts that is printed as an object is so
read back from it, whatever characters its fields are made of and in whatever order they are written.
-/
import FunctionWorker.Proofs.Json.RoundTrip

namespace FunctionWorker.Json

open Raw (octet)

variable {depth : Nat} {members : List (String × Json)} {rs : List (Bytes × Raw)} {names : List String} {s : String}
  {j : Json} {r : Raw}

/-- The text of an object is read as its members, whatever the order of their keys. -/
theorem ofBytes_object (h : ∀ m ∈ members, ∃ r, ReadsAs depth m.2 r) (hmembers : members ≠ []) :
    ∃ rs, Raw.ofBytes (Text.utf8 (Json.object members).render) = some (.object rs) ∧
      Raw.toMembers depth rs = some members := by
  obtain ⟨rs, hread, hstands⟩ := members_read h hmembers
  refine ⟨rs, ?_, hstands⟩
  obtain ⟨m, ms, rfl⟩ := List.exists_cons_of_ne_nil hmembers
  have hprint : print (.object (m :: ms)) = '\x7b' :: printMembers (m :: ms) := by rw [print]
  obtain ⟨bytes, hbytes⟩ := encode_members_quote m ms []
  have hlength := Text.length_le_encode (printMembers (m :: ms))
  have hvalue := hread (2 * (Text.encode ('\x7b' :: printMembers (m :: ms))).length + 1) [] (by
    rw [encode_cons_octet (by decide), List.length_cons]
    omega)
  rw [hbytes] at hvalue
  unfold Raw.ofBytes render
  rw [Text.utf8_ofList, hprint, encode_cons_octet (by decide)]
  rw [List.append_nil] at hbytes
  rw [encode_cons_octet (by decide), hbytes] at hvalue
  rw [hbytes, value_object hvalue]
  rfl

theorem text?_of_toJson (h : Raw.toJson depth r = some (.text s)) : Raw.text? r = some s := by
  cases r with
  | text octets =>
    rw [Raw.toJson] at h
    obtain ⟨t, ht, heq⟩ := Option.map_eq_some_iff.1 h
    cases heq
    exact ht
  | number n =>
    rw [Raw.toJson] at h
    split at h <;> cases h
  | array items =>
    cases depth <;> rw [Raw.toJson] at h
    · cases h
    · obtain ⟨t, -, heq⟩ := Option.map_eq_some_iff.1 h
      cases heq
  | object members =>
    cases depth <;> rw [Raw.toJson] at h
    · cases h
    · obtain ⟨t, -, heq⟩ := Option.map_eq_some_iff.1 h
      cases heq
  | _ =>
    rw [Raw.toJson] at h
    cases h

/-- Members whose keys are all different are all accepted, and those that are asked for come behind the ones found
before. -/
theorem foldlM_addMember (h : Raw.toMembers depth rs = some members) {found : List (String × Raw)}
    (hnodup : (found.map Prod.fst ++ members.map Prod.fst).Nodup) :
    ∃ all, rs.foldlM (Raw.addMember names) found = some all ∧ ∀ n ∈ names,
      (all.lookup n).bind (Raw.toJson depth) = ((found.lookup n).bind (Raw.toJson depth)).or (members.lookup n) := by
  induction rs generalizing members found with
  | nil =>
    rw [Raw.toMembers] at h
    cases h
    exact ⟨found, rfl, fun n _ => by rw [List.lookup_nil, Option.or_none]⟩
  | cons m rs ih =>
    obtain ⟨k, r⟩ := m
    rw [Raw.toMembers] at h
    split at h
    · cases h
    · rename_i key hkey
      split at h
      · cases h
      · rename_i j hj
        obtain ⟨ms, hms, rfl⟩ := Option.map_eq_some_iff.1 h
        have hnew : key ∉ found.map Prod.fst := fun hmem =>
          (List.nodup_append.1 hnodup).2.2 key hmem key List.mem_cons_self rfl
        rw [List.foldlM_cons, Raw.addMember, hkey]
        dsimp only
        by_cases hasked : key ∈ names
        · have hany : found.any (·.1 == key) = false := by
            rw [List.any_eq_false]
            rintro x hx heq
            exact hnew (List.mem_map.2 ⟨x, hx, eq_of_beq heq⟩)
          have hnone : found.lookup key = none := by
            rw [List.lookup_eq_none_iff]
            exact fun x hx => bne_iff_ne.2 fun heq => hnew (heq ▸ List.mem_map_of_mem hx)
          have hrest : ((found ++ [(key, r)]).map Prod.fst ++ ms.map Prod.fst).Nodup := by simpa using hnodup
          obtain ⟨all, hall, hlookup⟩ := ih hms hrest
          rw [if_pos (List.contains_iff_mem.2 hasked), hany]
          refine ⟨all, hall, fun n hn => ?_⟩
          rw [hlookup n hn, List.lookup_append]
          by_cases heq : n = key
          · simp [heq, hnone, hj]
          · simp [List.lookup_cons, beq_false_of_ne heq]
        · have hrest : (found.map Prod.fst ++ ms.map Prod.fst).Nodup :=
            hnodup.sublist ((List.sublist_cons_self ..).append_left _)
          obtain ⟨all, hall, hlookup⟩ := ih hms hrest
          rw [if_neg fun hmem => hasked (List.contains_iff_mem.1 hmem)]
          refine ⟨all, hall, fun n hn => ?_⟩
          have hne : n ≠ key := fun heq => hasked (heq ▸ hn)
          rw [hlookup n hn, List.lookup_cons, beq_false_of_ne hne]

/-- The fields of a record of texts are found among the members of an object, each key once, in any order. -/
theorem fields?_of_members (names : List String) (h : Raw.toMembers depth rs = some members)
    (hnodup : (members.map Prod.fst).Nodup) :
    ∃ field : String → Raw.Field, Raw.fields? names (.object rs) = some (names.map field) ∧
      ∀ n ∈ names, ∀ s, members.lookup n = some (.text s) → (field n).required Raw.text? = some s := by
  obtain ⟨all, hall, hlookup⟩ : ∃ all, rs.foldlM (Raw.addMember names) [] = some all ∧ ∀ n ∈ names,
      (all.lookup n).bind (Raw.toJson depth) = members.lookup n := foldlM_addMember h hnodup
  unfold Raw.fields?
  dsimp only
  rw [hall]
  refine ⟨_, rfl, fun n hn s hs => ?_⟩
  have hn := hlookup n hn
  rw [hs] at hn
  obtain ⟨r, hr, htext⟩ := Option.bind_eq_some_iff.1 hn
  rw [hr]
  exact text?_of_toJson htext

end FunctionWorker.Json
