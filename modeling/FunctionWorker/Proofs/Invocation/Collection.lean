/-
Collection of the outputs of an invocation. The values are taken one after another under the declared names,
whatever their case, and others are moved into their places; where no two of them have the same name, what is
collected depends only on which value is under each name.
-/
import FunctionWorker.Invocation.Outputs
import FunctionWorker.Proofs.Text.Names
import Mathlib.Tactic

namespace FunctionWorker

/-! ## Values on the wire -/

/-- Going through a list past elements of one kind, one comes to an element of another kind. -/
def ComesTo {α : Type} (past here : α → Prop) (l : List α) : Prop :=
  ∃ before a after, l = before ++ a :: after ∧ (∀ x ∈ before, past x) ∧ here a

theorem comesTo_nil {α : Type} {past here : α → Prop} : ¬ ComesTo past here [] := by
  rintro ⟨before, a, after, h, -⟩
  cases before <;> cases h

theorem comesTo_cons {α : Type} {past here : α → Prop} {a : α} {l : List α} :
    ComesTo past here (a :: l) ↔ here a ∨ past a ∧ ComesTo past here l := by
  constructor
  · rintro ⟨before, b, after, h, hpast, hhere⟩
    cases before with
    | nil =>
      obtain ⟨rfl, rfl⟩ := List.cons.inj h
      exact .inl hhere
    | cons x before =>
      obtain ⟨rfl, rfl⟩ := List.cons.inj h
      obtain ⟨hx, hbefore⟩ := List.forall_mem_cons.1 hpast
      exact .inr ⟨hx, before, b, after, rfl, hbefore, hhere⟩
  · rintro (hhere | ⟨hx, before, b, after, rfl, hbefore, hhere⟩)
    · exact ⟨[], a, l, rfl, fun _ h => absurd h List.not_mem_nil, hhere⟩
    · exact ⟨a :: before, b, after, rfl, List.forall_mem_cons.2 ⟨hx, hbefore⟩, hhere⟩

namespace Serializer

variable {serializers : List Serializer} {v : OutputValue} {w : WireValue} {p : Panic}

/-- A value is written by the first serializer that does not leave it to others, or, if all of them do, by
the rule of its type. -/
def Writes (serializers : List Serializer) (v : OutputValue) (w : WireValue) : Prop :=
  ComesTo (·.serialize v = .ok none) (·.serialize v = .ok (some w)) serializers ∨
    (∀ s ∈ serializers, s.serialize v = .ok none) ∧ w = v.toWire

/-- The first serializer that does not leave a value to others panics. -/
def Spoils (serializers : List Serializer) (v : OutputValue) (p : Panic) : Prop :=
  ComesTo (·.serialize v = .ok none) (·.serialize v = .error p) serializers

theorem apply_ok_iff : apply serializers v = .ok w ↔ Writes serializers v w := by
  unfold Writes
  induction serializers with
  | nil => simp [apply, comesTo_nil, eq_comm]
  | cons s serializers ih =>
    rw [comesTo_cons, List.forall_mem_cons, apply]
    cases h : s.serialize v with
    | error p => simp
    | ok written => cases written <;> simp [ih]

theorem apply_error_iff : apply serializers v = .error p ↔ Spoils serializers v p := by
  unfold Spoils
  induction serializers with
  | nil => simp [apply, comesTo_nil]
  | cons s serializers ih =>
    rw [comesTo_cons, apply]
    cases h : s.serialize v with
    | error q => simp
    | ok written => cases written <;> simp [ih]

end Serializer

/-! ## Taking values -/

namespace SerializedOutputs

variable {serializers : List Serializer} {produced : List (String × OutputValue)}
  {entries : List (String × OutputValue)} {s : SerializedOutputs} {p : Panic}

/-- Where the last element moves into the place of another one, no element is lost. -/
theorem perm_moveLast {α : Type} {l : List α} {i : Nat} {x last : α} (hx : l[i]? = some x)
    (hlast : l.getLast? = some last) : l.Perm (x :: (l.set i last).dropLast) := by
  obtain ⟨front, rfl⟩ := List.getLast?_eq_some_iff.1 hlast
  by_cases hi : i < front.length
  · rw [List.getElem?_append_left hi] at hx
    obtain ⟨-, rfl⟩ := List.getElem?_eq_some_iff.1 hx
    rw [List.set_append_left _ _ hi, List.dropLast_concat, List.set_eq_take_append_cons_drop, if_pos hi]
    have hsplit : front = front.take i ++ front[i] :: front.drop (i + 1) := by
      rw [List.getElem_cons_drop, List.take_append_drop]
    refine (List.perm_append_singleton last front).trans ?_
    calc (last :: front).Perm (last :: front[i] :: (front.take i ++ front.drop (i + 1))) := by
          conv_lhs => rw [hsplit]
          exact List.perm_middle.cons _
      _ |>.Perm (front[i] :: last :: (front.take i ++ front.drop (i + 1))) := .swap ..
      _ |>.Perm (front[i] :: (front.take i ++ last :: front.drop (i + 1))) := List.perm_middle.symm.cons _
  · -- the last element itself was taken
    obtain ⟨hlen, hget⟩ := List.getElem?_eq_some_iff.1 hx
    rw [List.length_append, List.length_singleton] at hlen
    obtain rfl : i = front.length := by omega
    rw [List.getElem_concat_length rfl] at hget
    subst hget
    simp

/-- A value that is taken is the one under the name, and the others stay. -/
theorem takeFirst_cases (name : String) (produced : List (String × OutputValue)) :
    (takeFirst name produced = none ∧ Text.lookup produced name = none) ∨
    ∃ key v rest, takeFirst name produced = some (v, rest) ∧ Text.lookup produced name = some v ∧
      Text.sameName key name = true ∧ produced.Perm ((key, v) :: rest) := by
  cases hidx : produced.findIdx? (Text.sameName ·.1 name) with
  | none =>
    refine .inl ⟨by simp only [takeFirst, hidx], Text.lookup_eq_none_iff.2 fun e he => ?_⟩
    exact List.findIdx?_eq_none_iff.1 hidx e he
  | some i =>
    obtain ⟨hi, hsame, hbefore⟩ := List.findIdx?_eq_some_iff_getElem.1 hidx
    have hget : produced[i]? = some produced[i] := List.getElem?_eq_getElem hi
    obtain ⟨last, hlast⟩ : ∃ last, produced.getLast? = some last :=
      ⟨_, List.getLast?_eq_some_getLast (List.ne_nil_of_length_pos (Nat.zero_lt_of_lt hi))⟩
    refine .inr ⟨produced[i].1, produced[i].2, _, by simp only [takeFirst, hidx, hget, hlast], ?_, hsame,
      perm_moveLast hget hlast⟩
    have hfind : produced.find? (Text.sameName ·.1 name) = some produced[i] :=
      List.find?_eq_some_iff_getElem.2 ⟨hsame, i, hi, rfl, fun j hj => by simpa using hbefore j hj⟩
    rw [Text.lookup, hfind, Option.map_some]

/-! ## Collection -/

/-- Adds values under their names in order, up to the first that cannot be written. -/
def addAll (serializers : List Serializer) (s : SerializedOutputs) (entries : List (String × OutputValue)) :
    Except Panic SerializedOutputs :=
  entries.foldlM (fun s e => (Serializer.apply serializers e.2).map (s.add e.1)) s

theorem addAll_cons (e : String × OutputValue) : addAll serializers s (e :: entries) =
    (Serializer.apply serializers e.2).bind fun w => addAll serializers (s.add e.1 w) entries := by
  rw [addAll, List.foldlM_cons]
  cases Serializer.apply serializers e.2 <;> rfl

theorem addAll_concat (e : String × OutputValue) : addAll serializers s (entries ++ [e]) =
    (addAll serializers s entries).bind fun s => (Serializer.apply serializers e.2).map (s.add e.1) := by
  rw [addAll, List.foldlM_append]
  refine congrArg (bind (addAll serializers s entries)) (funext fun s => ?_)
  rw [List.foldlM_cons]
  cases Serializer.apply serializers e.2 <;> rfl

/-- The entries that values have under the first of the declared names that are the same. -/
def entriesOf (declared : List String) (value : String → Option OutputValue) : List (String × OutputValue) :=
  (Text.firsts declared).filterMap fun name => (value name).map (name, ·)

/-- Collection adds, in the order of declaration, what is found under the declared names. -/
theorem collectInto_eq (serializers : List Serializer) : ∀ (declared : List String) (s : SerializedOutputs)
    (produced : List (String × OutputValue)), Text.Distinct produced →
      collectInto serializers s declared produced =
        addAll serializers s (entriesOf declared (Text.lookup produced))
  | [], _, _, _ => rfl
  | name :: declared, s, produced, hd => by
    rw [collectInto, entriesOf, Text.firsts, List.filterMap_cons]
    rcases takeFirst_cases name produced with ⟨htake, hnone⟩ | ⟨key, v, rest, htake, hsome, hkey, hperm⟩
    · rw [htake, hnone]
      dsimp only [Option.map_none]
      rw [collectInto_eq serializers declared s produced hd, Text.filterMap_filter]
      · rfl
      · intro m hm
        rw [← Text.lookup_congr hm, hnone, Option.map_none]
      · exact fun m _ => rfl
    · rw [htake, hsome]
      dsimp only [Option.map_some]
      have hd' : Text.Distinct ((key, v) :: rest) := hd.perm hperm
      -- the names that are found in the rest are those that differ from the one that was taken
      have hentries : ((Text.firsts declared).filter fun m => !Text.sameName name m).filterMap
          (fun m => (Text.lookup produced m).map (m, ·)) = entriesOf declared (Text.lookup rest) := by
        refine Text.filterMap_filter (fun m hm => ?_) (fun m hm => ?_) _
        · rw [Text.lookup_rest hd' hkey, if_pos hm, Option.map_none]
        · rw [Text.lookup_rest hd' hkey, if_neg (by rw [hm]; exact Bool.false_ne_true), Text.lookup_perm hd hperm]
      rw [hentries, addAll_cons]
      cases happly : Serializer.apply serializers v with
      | error p => rfl
      | ok w => exact collectInto_eq serializers declared (s.add name w) rest (List.pairwise_cons.1 hd').2

theorem collect_eq (serializers : List Serializer) (declared : List String) (hd : Text.Distinct produced) :
    collect serializers declared produced =
      addAll serializers {} (entriesOf declared (Text.lookup produced)) :=
  collectInto_eq serializers declared {} produced hd

theorem entriesOf_distinct (declared : List String) (value : String → Option OutputValue) :
    Text.Distinct (entriesOf declared value) := by
  refine (Text.firsts_pairwise declared).filterMap _ fun a b hab x hx y hy => ?_
  obtain ⟨v, -, rfl⟩ := Option.map_eq_some_iff.1 hx
  obtain ⟨u, -, rfl⟩ := Option.map_eq_some_iff.1 hy
  exact hab

/-- What is collected of values under their names: those of named outputs in order, and apart from them the
value that is returned. -/
structure Gathers (serializers : List Serializer) (entries : List (String × OutputValue))
    (s : SerializedOutputs) : Prop where
  outputs : List.Forall₂ (fun e b => b.name = e.1 ∧ Serializer.Writes serializers e.2 b.value)
    (entries.filter fun e => !Text.sameName e.1 returnBinding) s.outputs
  returned : ∀ w, s.returned = some w ↔
    ∃ e ∈ entries, Text.sameName e.1 returnBinding = true ∧ Serializer.Writes serializers e.2 w

theorem Gathers.nil (serializers : List Serializer) : Gathers serializers [] {} :=
  ⟨.nil, fun _ => ⟨nofun, fun ⟨_, h, _⟩ => absurd h List.not_mem_nil⟩⟩

/-- One more value goes to the end of the outputs or is the value that is returned. -/
theorem Gathers.add {e : String × OutputValue} {w : WireValue} (h : Gathers serializers entries s)
    (hd : Text.Distinct (entries ++ [e])) (hw : Serializer.Writes serializers e.2 w) :
    Gathers serializers (entries ++ [e]) (s.add e.1 w) := by
  unfold SerializedOutputs.add
  by_cases hret : Text.sameName e.1 returnBinding = true
  · rw [if_pos hret]
    constructor
    · simpa [List.filter_append, hret] using h.outputs
    · -- no earlier value was returned, since its name would be the same
      intro w'
      constructor
      · intro hsome
        rw [← Option.some.inj hsome]
        exact ⟨e, List.mem_append_right _ (List.mem_singleton_self e), hret, hw⟩
      · rintro ⟨e', hmem, hret', hw'⟩
        rcases List.mem_append.1 hmem with hmem | hmem
        · have hdiffer := (List.pairwise_append.1 hd).2.2 e' hmem e (List.mem_singleton_self e)
          rw [Text.sameName_trans hret' (Text.sameName_comm .. ▸ hret)] at hdiffer
          cases hdiffer
        · rw [List.mem_singleton.1 hmem, ← Serializer.apply_ok_iff, Serializer.apply_ok_iff.2 hw] at hw'
          exact congrArg some (Except.ok.inj hw')
  · rw [if_neg hret]
    rw [Bool.not_eq_true] at hret
    constructor
    · rw [List.filter_append]
      refine List.rel_append h.outputs ?_
      simp [hret, hw]
    · intro w'
      simp only [h.returned, List.mem_append, List.mem_singleton]
      constructor
      · rintro ⟨e', hmem, hret', hw'⟩
        exact ⟨e', .inl hmem, hret', hw'⟩
      · rintro ⟨e', hmem | rfl, hret', hw'⟩
        · exact ⟨e', hmem, hret', hw'⟩
        · rw [hret] at hret'
          cases hret'

theorem addAll_gathers (hd : Text.Distinct entries) (h : addAll serializers {} entries = .ok s) :
    Gathers serializers entries s := by
  induction entries using List.reverseRecOn generalizing s with
  | nil =>
    cases h
    exact .nil serializers
  | append_singleton entries e ih =>
    rw [addAll_concat] at h
    cases hfront : addAll serializers {} entries with
    | error p =>
      rw [hfront] at h
      cases h
    | ok s' =>
      have hgathers := ih (List.pairwise_append.1 hd).1 hfront
      rw [hfront] at h
      change (Serializer.apply serializers e.2).map (s'.add e.1) = .ok s at h
      cases hwritten : Serializer.apply serializers e.2 with
      | error p =>
        rw [hwritten] at h
        cases h
      | ok w =>
        rw [hwritten] at h
        cases h
        exact hgathers.add hd (Serializer.apply_ok_iff.1 hwritten)

/-- Values cannot be added just when one of them panics that comes after others that are written. -/
theorem addAll_error_iff : addAll serializers s entries = .error p ↔
    ComesTo (fun e => ∃ w, Serializer.Writes serializers e.2 w) (fun e => Serializer.Spoils serializers e.2 p)
      entries := by
  induction entries generalizing s with
  | nil => exact ⟨nofun, fun h => absurd h comesTo_nil⟩
  | cons e entries ih =>
    rw [comesTo_cons, addAll_cons, ← Serializer.apply_error_iff]
    simp only [← Serializer.apply_ok_iff] at ih ⊢
    cases hwritten : Serializer.apply serializers e.2 with
    | error q => simp [Except.bind]
    | ok w => simpa [Except.bind] using ih

end SerializedOutputs

end FunctionWorker
