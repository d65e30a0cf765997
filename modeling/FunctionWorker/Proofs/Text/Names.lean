/-
Names without case. Two names are the same when they differ in nothing but the case of letters, which is an
equivalence; where no two entries of a list are under the same name, their order does not matter.
-/
import FunctionWorker.Text.Ascii
import Mathlib.Tactic

namespace FunctionWorker.Text

variable {α : Type} {a b name : String} {v : α} {l l' : List (String × α)}

theorem fold_eq_iff : fold a = b ↔ a.toList.map lower = b.toList := by
  rw [← String.toList_inj, fold, String.toList_map]

theorem sameName_congr (h : sameName a b = true) (c : String) : sameName c a = sameName c b := by
  rw [sameName, beq_iff_eq] at h
  rw [sameName, sameName, h]

theorem lookup_congr (h : sameName a b = true) (l : List (String × α)) : lookup l a = lookup l b := by
  unfold lookup
  simp only [sameName_congr h]

theorem lookup_cons (e : String × α) (l : List (String × α)) (name : String) :
    lookup (e :: l) name = if sameName e.1 name then some e.2 else lookup l name := by
  unfold lookup
  rw [List.find?_cons]
  cases sameName e.1 name <;> rfl

theorem lookup_eq_none_iff : lookup l name = none ↔ ∀ e ∈ l, sameName e.1 name = false := by
  unfold lookup
  simp only [Option.map_eq_none_iff, List.find?_eq_none, Bool.not_eq_true]

/-- No two entries are under the same name. -/
def Distinct (l : List (String × α)) : Prop := l.Pairwise fun x y => sameName x.1 y.1 = false

/-- Where no two names are the same, a name finds the one value that is under it. -/
theorem lookup_eq_some_iff (h : Distinct l) :
    lookup l name = some v ↔ ∃ key, (key, v) ∈ l ∧ sameName key name = true := by
  induction l with
  | nil => simp [lookup]
  | cons e l ih =>
    obtain ⟨hfirst, hrest⟩ := List.pairwise_cons.1 h
    rw [lookup_cons]
    by_cases hsame : sameName e.1 name = true
    · rw [if_pos hsame, Option.some_inj]
      constructor
      · rintro rfl
        exact ⟨e.1, List.mem_cons_self .., hsame⟩
      · rintro ⟨key, hmem, hkey⟩
        rcases List.mem_cons.1 hmem with rfl | hmem
        · rfl
        · have hdiffer := hfirst _ hmem
          rw [← sameName_congr (sameName_comm .. ▸ hkey), hsame] at hdiffer
          cases hdiffer
    · rw [if_neg hsame, ih hrest]
      constructor
      · rintro ⟨key, hmem, hkey⟩
        exact ⟨key, List.mem_cons_of_mem _ hmem, hkey⟩
      · rintro ⟨key, hmem, hkey⟩
        rcases List.mem_cons.1 hmem with rfl | hmem
        · exact absurd hkey hsame
        · exact ⟨key, hmem, hkey⟩

theorem Distinct.perm (h : Distinct l) (hp : l.Perm l') : Distinct l' :=
  hp.pairwise h fun hxy => by rwa [sameName_comm]

/-- The order of entries whose names differ does not matter. -/
theorem lookup_perm (h : Distinct l) (hp : l.Perm l') (name : String) : lookup l' name = lookup l name := by
  apply Option.ext
  intro v
  rw [lookup_eq_some_iff h, lookup_eq_some_iff (h.perm hp)]
  simp only [hp.mem_iff]

/-- Without the entry of a name, the name is not found any more. -/
theorem lookup_rest {key : String} (h : Distinct ((key, v) :: l)) (hkey : sameName key name = true) (m : String) :
    lookup l m = if sameName name m then none else lookup ((key, v) :: l) m := by
  obtain ⟨hfirst, -⟩ := List.pairwise_cons.1 h
  by_cases hm : sameName name m = true
  · rw [if_pos hm, lookup_eq_none_iff]
    intro e he
    by_contra hsame
    rw [Bool.not_eq_false, sameName_comm] at hsame
    have hsameKey : sameName key e.1 = true := sameName_trans (sameName_trans hkey hm) hsame
    rw [hfirst e he] at hsameKey
    cases hsameKey
  · have hdiffer : ¬ sameName key m = true := fun hsame => hm (sameName_trans (sameName_comm .. ▸ hkey) hsame)
    rw [if_neg hm, lookup_cons, if_neg hdiffer]

/-- The names of a list without those that are the same as an earlier one. -/
def firsts : List String → List String
  | [] => []
  | n :: ns => n :: (firsts ns).filter fun m => !sameName n m

theorem firsts_sublist : ∀ ns : List String, (firsts ns).Sublist ns
  | [] => .slnil
  | _ :: ns => (List.filter_sublist.trans (firsts_sublist ns)).cons_cons _

theorem firsts_pairwise : ∀ ns : List String, (firsts ns).Pairwise fun a b => sameName a b = false
  | [] => .nil
  | n :: ns => by
    refine List.pairwise_cons.2 ⟨fun m hm => ?_, (firsts_pairwise ns).filter _⟩
    rw [← Bool.not_eq_true']
    exact (List.mem_filter.1 hm).2

/-- Where a name is not to be found any more, it is passed over together with those that are the same. -/
theorem filterMap_filter {β : Type} {f g : String → Option β} (hsame : ∀ m, sameName name m = true → f m = none)
    (hdiffer : ∀ m, sameName name m = false → f m = g m) (ns : List String) :
    (ns.filter fun m => !sameName name m).filterMap g = ns.filterMap f := by
  rw [List.filterMap_filter]
  refine congrArg (List.filterMap · ns) (funext fun m => ?_)
  cases h : sameName name m with
  | true => simp [hsame m h]
  | false => simp [hdiffer m h]

end FunctionWorker.Text
