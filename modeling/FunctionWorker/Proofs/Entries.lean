/-
Entries under keys. What is put under a key takes the place of what was there, other keys are left alone, and keys
stay distinct.
-/
import FunctionWorker.Entries
import Mathlib.Data.List.Nodup

namespace FunctionWorker.Entries

variable {α : Type} {key name : String} {value : α} {e : String × α} {l : List (String × α)}

/-! ## Members -/

theorem mem_of_mem_put : ∀ {l : List (String × α)}, e ∈ put key value l → e = (key, value) ∨ e ∈ l
  | [], h => .inl (List.mem_singleton.1 h)
  | (k, v) :: rest, h => by
    unfold put at h
    split at h
    · rcases List.mem_cons.1 h with rfl | h
      · exact .inl rfl
      · exact .inr (List.mem_cons_of_mem _ h)
    · rcases List.mem_cons.1 h with rfl | h
      · exact .inr (List.mem_cons_self ..)
      · exact (mem_of_mem_put h).imp_right (List.mem_cons_of_mem _)

theorem mem_put_self : ∀ l : List (String × α), (key, value) ∈ put key value l
  | [] => List.mem_singleton_self _
  | (k, v) :: rest => by
    unfold put
    split
    · exact List.mem_cons_self ..
    · exact List.mem_cons_of_mem _ (mem_put_self rest)

/-- Entries under other keys are left alone. -/
theorem mem_put_of_ne (hne : e.1 ≠ key) : ∀ {l : List (String × α)}, e ∈ put key value l ↔ e ∈ l
  | [] => by
    unfold put
    constructor
    · intro h
      rw [List.mem_singleton.1 h] at hne
      exact absurd rfl hne
    · exact fun h => absurd h List.not_mem_nil
  | (k, v) :: rest => by
    unfold put
    split
    · rename_i hk
      subst hk
      have hhead : ∀ x, e ≠ (k, x) := by
        rintro x rfl
        exact hne rfl
      rw [List.mem_cons, List.mem_cons]
      exact or_congr (iff_of_false (hhead _) (hhead _)) Iff.rfl
    · rw [List.mem_cons, List.mem_cons, mem_put_of_ne hne]

/-! ## Keys -/

theorem keys_put : ∀ l : List (String × α), ((put key value l).map Prod.fst) =
    if key ∈ l.map Prod.fst then l.map Prod.fst else l.map Prod.fst ++ [key]
  | [] => by simp [put]
  | (k, v) :: rest => by
    unfold put
    by_cases hk : k = key
    · simp [hk]
    · have hne : key ≠ k := fun h => hk h.symm
      rw [if_neg hk, List.map_cons, keys_put rest]
      by_cases hmem : key ∈ rest.map Prod.fst <;> simp [hmem, hne]

theorem nodup_put (h : (l.map Prod.fst).Nodup) : ((put key value l).map Prod.fst).Nodup := by
  rw [keys_put]
  split
  · exact h
  · rename_i hmem
    rw [← List.concat_eq_append]
    exact List.Nodup.concat hmem h

/-! ## Entries by key -/

theorem lookup_cons (e : String × α) (l : List (String × α)) (name : String) :
    (e :: l).lookup name = if name = e.1 then some e.2 else l.lookup name := by
  rw [List.lookup_cons]
  by_cases h : name = e.1
  · rw [if_pos h, beq_iff_eq.2 h]
  · rw [if_neg h, beq_false_of_ne h]

theorem lookup_put : ∀ l : List (String × α),
    (put key value l).lookup name = if name = key then some value else l.lookup name
  | [] => lookup_cons ..
  | (k, v) :: rest => by
    unfold put
    by_cases hk : k = key
    · subst hk
      rw [if_pos rfl, lookup_cons, lookup_cons]
      split <;> rfl
    · rw [if_neg hk, lookup_cons, lookup_cons, lookup_put rest]
      by_cases h : name = k
      · subst h
        rw [if_pos rfl, if_neg hk, if_pos rfl]
      · rw [if_neg h, if_neg h]

/-- Where keys are distinct, looking up a key finds the one entry that it has. -/
theorem lookup_eq_some_iff : ∀ {l : List (String × α)}, (l.map Prod.fst).Nodup →
    (l.lookup key = some value ↔ (key, value) ∈ l)
  | [], _ => by simp
  | (k, v) :: rest, h => by
    rw [List.map_cons, List.nodup_cons] at h
    obtain ⟨hnot, hrest⟩ := h
    rw [List.lookup_cons, List.mem_cons, ← lookup_eq_some_iff hrest]
    by_cases hk : key = k
    · subst hk
      have hnone : rest.lookup key ≠ some value := fun hl =>
        hnot (List.mem_map.2 ⟨_, (lookup_eq_some_iff hrest).1 hl, rfl⟩)
      simp [hnone, eq_comm]
    · have hne : (key == k) = false := beq_false_of_ne hk
      simp [hk, hne]

/-- What is looked up under a key is what there is at its first place. -/
theorem lookup_eq_place (key : String) :
    ∀ l : List (String × α), l.lookup key = ((l.findIdx? (·.1 == key)).bind (l[·]?)).map Prod.snd
  | [] => rfl
  | (k, v) :: rest => by
    rw [lookup_cons, List.findIdx?_cons, lookup_eq_place key rest]
    by_cases hk : key = k
    · simp [hk]
    · have hne : (k == key) = false := beq_false_of_ne (Ne.symm hk)
      rw [if_neg hk]
      dsimp only
      rw [hne, if_neg Bool.false_ne_true, Option.bind_map]
      rfl

end FunctionWorker.Entries
