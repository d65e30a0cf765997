/-
Which registration an id stands for. Callers draw a token, insert a registration under it and later
remove that registration; other callers, with the same id or another one, may come in between any two
of these operations. At every point the entry of an id is the registration that was inserted last under
it, or nothing if that one was removed.
-/
import FunctionWorker.Proofs.World.History
import FunctionWorker.Proofs.World.Registrations

namespace FunctionWorker

variable {w w' : World} {es past : List Event} {e : Event} {r : Registration} {id : String} {token : TokenId}

/-! ## Registrations in a history -/

def Event.draws? (e : Event) : Option TokenId :=
  match e.op with
  | .drawToken => some e.before.cancellations.tokens.length
  | _ => none

def Event.inserts? (e : Event) : Option Registration :=
  match e.op with
  | .insertRegistration r => some r
  | _ => none

def Event.removes? (e : Event) : Option Registration :=
  match e.op with
  | .removeRegistration r => some r
  | _ => none

/-- The tokens that were drawn. -/
def drawn (es : List Event) : List TokenId := es.filterMap (·.draws?)

/-- The registrations that were inserted, in order. -/
def inserted (es : List Event) : List Registration := es.filterMap (·.inserts?)

def removed (es : List Event) : List Registration := es.filterMap (·.removes?)

/-- The registration that was inserted last under an id. -/
def lastInserted (id : String) (es : List Event) : Option Registration :=
  (inserted es).reverse.find? (·.invocationId = id)

/-- The registration that an id stands for. -/
def standing (id : String) (es : List Event) : Option Registration :=
  (lastInserted id es).filter (· ∉ removed es)

/-- What callers keep to: a registration is inserted under a token that was drawn before and that no
other one has, and it is removed only after that. -/
structure InOrder (past : List Event) (e : Event) : Prop where
  drawn : ∀ r, e.inserts? = some r → r.token ∈ drawn past
  fresh : ∀ r, e.inserts? = some r → ∀ x ∈ inserted past, x.token ≠ r.token
  inserted : ∀ r, e.removes? = some r → r ∈ inserted past

/-- Histories in which all registrations are in order, with what has happened before. -/
def OrderlyAfter : List Event → List Event → Prop
  | _, [] => True
  | past, e :: es => InOrder past e ∧ OrderlyAfter (past ++ [e]) es

abbrev Orderly (es : List Event) : Prop := OrderlyAfter [] es

instance (past : List Event) (e : Event) : Decidable (InOrder past e) :=
  decidable_of_iff
    ((∀ r, e.inserts? = some r → r.token ∈ drawn past) ∧
      (∀ r, e.inserts? = some r → ∀ x ∈ inserted past, x.token ≠ r.token) ∧
      ∀ r, e.removes? = some r → r ∈ inserted past)
    ⟨fun h => ⟨h.1, h.2.1, h.2.2⟩, fun h => ⟨h.drawn, h.fresh, h.inserted⟩⟩

instance OrderlyAfter.decidable : ∀ past es, Decidable (OrderlyAfter past es)
  | _, [] => .isTrue trivial
  | past, e :: es => @instDecidableAnd _ _ inferInstance (OrderlyAfter.decidable (past ++ [e]) es)

/-- Operations that are carried out one after another, as events. -/
def told : World → List Op → List Event
  | _, [] => []
  | w, op :: ops => ⟨true, op, w⟩ :: told (World.perform op w).2 ops

theorem leads_told : ∀ (w : World) (ops : List Op),
    Leads w (told w ops) (ops.foldl (fun w op => (World.perform op w).2) w)
  | _, [] => rfl
  | _, _ :: ops => ⟨rfl, leads_told _ ops⟩

@[simp] theorem drawn_append (es₁ es₂ : List Event) : drawn (es₁ ++ es₂) = drawn es₁ ++ drawn es₂ :=
  List.filterMap_append

@[simp] theorem inserted_append (es₁ es₂ : List Event) :
    inserted (es₁ ++ es₂) = inserted es₁ ++ inserted es₂ := List.filterMap_append

@[simp] theorem removed_append (es₁ es₂ : List Event) :
    removed (es₁ ++ es₂) = removed es₁ ++ removed es₂ := List.filterMap_append

theorem drawn_singleton (e : Event) : drawn [e] = e.draws?.toList := by
  unfold drawn
  cases h : e.draws? <;> simp [h]

theorem inserted_singleton (e : Event) : inserted [e] = e.inserts?.toList := by
  unfold inserted
  cases h : e.inserts? <;> simp [h]

theorem removed_singleton (e : Event) : removed [e] = e.removes?.toList := by
  unfold removed
  cases h : e.removes? <;> simp [h]

theorem mem_of_lastInserted (h : lastInserted id es = some r) : r ∈ inserted es ∧ r.invocationId = id := by
  have hfound := List.find?_some h
  have hmem := List.mem_of_find?_eq_some h
  exact ⟨List.mem_reverse.1 hmem, of_decide_eq_true hfound⟩

/-- An insertion is the last one under its id. -/
theorem lastInserted_insert (h : e.inserts? = some r) :
    lastInserted id (es ++ [e]) = if r.invocationId = id then some r else lastInserted id es := by
  unfold lastInserted
  rw [inserted_append, inserted_singleton, h]
  simp only [Option.toList_some, List.reverse_append, List.reverse_cons, List.reverse_nil, List.nil_append,
    List.singleton_append, List.find?_cons]
  by_cases hid : r.invocationId = id <;> simp [hid]

theorem lastInserted_other (h : e.inserts? = none) : lastInserted id (es ++ [e]) = lastInserted id es := by
  unfold lastInserted
  rw [inserted_append, inserted_singleton, h, Option.toList_none, List.append_nil]

theorem standing_eq_some : standing id es = some r ↔ lastInserted id es = some r ∧ r ∉ removed es := by
  unfold standing
  rw [Option.filter_eq_some_iff, decide_eq_true_iff]

/-! ## One operation -/

/-- The books of a registry: its entries are the registrations that ids stand for. -/
structure Books (es : List Event) (w : World) : Prop where
  keys : (w.cancellations.entries.map Prod.fst).Nodup
  entries : ∀ id token, (id, token) ∈ w.cancellations.entries ↔ standing id es = some ⟨id, token⟩
  tokens : ∀ t ∈ drawn es, t < w.cancellations.tokens.length
  under : ∀ r ∈ inserted es, r.token ∈ drawn es
  own : ((inserted es).map (·.token)).Nodup
  since : ∀ r ∈ removed es, r ∈ inserted es

theorem Books.init (h : w.cancellations.entries = []) : Books [] w where
  keys := by simp [h]
  entries := by simp [h, standing, lastInserted, inserted]
  tokens := by simp [drawn]
  under := by simp [inserted]
  own := by simp [inserted]
  since := by simp [removed]

/-- What does not insert or remove leaves the books as they are. -/
theorem Books.quiet (h : Books past e.before) (hi : e.inserts? = none) (hr : e.removes? = none) :
    Books (past ++ [e]) e.after := by
  have hentries : e.after.cancellations.entries = e.before.cancellations.entries := by
    refine entries_perform (fun r hop => ?_) (fun r hop => ?_) e.before
    · simp [Event.inserts?, hop] at hi
    · simp [Event.removes?, hop] at hr
  have hstanding : ∀ id, standing id (past ++ [e]) = standing id past := by
    intro id
    unfold standing
    rw [lastInserted_other hi, removed_append, removed_singleton, hr, Option.toList_none, List.append_nil]
  have hinserted : inserted (past ++ [e]) = inserted past := by simp [inserted_singleton, hi]
  refine ⟨hentries ▸ h.keys, fun id token => ?_, fun t ht => ?_, fun r hmem => ?_, hinserted ▸ h.own,
    fun r hmem => ?_⟩
  · rw [hentries, hstanding]
    exact h.entries id token
  · rw [drawn_append, List.mem_append, drawn_singleton, Option.mem_toList] at ht
    rcases ht with ht | ht
    · exact lt_of_lt_of_le (h.tokens t ht) (tokens_grow e.op e.before)
    · -- the token that is drawn is the next one
      unfold Event.draws? at ht
      split at ht
      · rename_i hop
        cases ht
        show _ < (World.perform e.op e.before).2.cancellations.tokens.length
        rw [hop]
        exact length_lt_concat _ _
      · cases ht
  · rw [hinserted] at hmem
    rw [drawn_append]
    exact List.mem_append_left _ (h.under r hmem)
  · rw [removed_append, removed_singleton, hr, Option.toList_none, List.append_nil] at hmem
    rw [hinserted]
    exact h.since r hmem

theorem Event.inserts_inv (h : e.inserts? = some r) : e.op = .insertRegistration r := by
  unfold Event.inserts? at h
  split at h
  · rename_i hop
    cases h
    exact hop
  · cases h

theorem Event.removes_inv (h : e.removes? = some r) : e.op = .removeRegistration r := by
  unfold Event.removes? at h
  split at h
  · rename_i hop
    cases h
    exact hop
  · cases h

/-- An entry is put in the place of the one that its id had. -/
theorem Books.insert (h : Books past e.before) (hi : e.inserts? = some r) (order : InOrder past e) :
    Books (past ++ [e]) e.after := by
  have hop := e.inserts_inv hi
  have hd : e.draws? = none := by simp [Event.draws?, hop]
  have hr : e.removes? = none := by simp [Event.removes?, hop]
  have hafter : e.after.cancellations = e.before.cancellations.insert r := by
    unfold Event.after
    rw [hop]
    rfl
  have hremoved : removed (past ++ [e]) = removed past := by simp [removed_singleton, hr]
  have hnew : r ∉ removed past := fun hmem => order.fresh r hi r (h.since r hmem) rfl
  have hkeys : ((Entries.put r.invocationId r.token e.before.cancellations.entries).map Prod.fst).Nodup :=
    Entries.nodup_put h.keys
  have hinserted : inserted (past ++ [e]) = inserted past ++ [r] := by simp [inserted_singleton, hi]
  refine ⟨?_, fun id token => ?_, fun t ht => ?_, fun x hx => ?_, ?_, fun x hx => ?_⟩
  · rw [hafter]
    exact hkeys
  · rw [standing_eq_some, lastInserted_insert hi, hremoved, hafter]
    show (id, token) ∈ Entries.put r.invocationId r.token e.before.cancellations.entries ↔ _
    by_cases hid : r.invocationId = id
    · -- keys are distinct, so the entry that was put is the only one of its id
      subst hid
      rw [if_pos rfl]
      constructor
      · intro hmem
        have hfound := (Entries.lookup_eq_some_iff hkeys).2 hmem
        rw [(Entries.lookup_eq_some_iff hkeys).2 (Entries.mem_put_self _)] at hfound
        cases hfound
        exact ⟨rfl, hnew⟩
      · rintro ⟨heq, -⟩
        have htoken : r.token = token := congrArg Registration.token (Option.some.inj heq)
        rw [← htoken]
        exact Entries.mem_put_self _
    · rw [if_neg hid, Entries.mem_put_of_ne (Ne.symm hid), ← standing_eq_some]
      exact h.entries id token
  · rw [drawn_append, drawn_singleton, hd, Option.toList_none, List.append_nil] at ht
    rw [hafter]
    exact h.tokens t ht
  · rw [hinserted, List.mem_append, List.mem_singleton] at hx
    rw [drawn_append]
    rcases hx with hx | rfl
    · exact List.mem_append_left _ (h.under x hx)
    · exact List.mem_append_left _ (order.drawn x hi)
  · rw [hinserted, List.map_append, List.nodup_append]
    refine ⟨h.own, List.nodup_singleton _, ?_⟩
    rintro a ha b hb rfl
    obtain ⟨x, hx, rfl⟩ := List.mem_map.1 ha
    exact order.fresh r hi x hx (List.mem_singleton.1 hb)
  · rw [hremoved] at hx
    rw [hinserted]
    exact List.mem_append_left _ (h.since x hx)

/-- The entry of a registration is taken out if its id still stands for it. -/
theorem Books.remove (h : Books past e.before) (hr : e.removes? = some r) (order : InOrder past e) :
    Books (past ++ [e]) e.after := by
  have hop := e.removes_inv hr
  have hd : e.draws? = none := by simp [Event.draws?, hop]
  have hi : e.inserts? = none := by simp [Event.inserts?, hop]
  have hafter : e.after.cancellations = e.before.cancellations.remove r := by
    unfold Event.after
    rw [hop]
    rfl
  have hinserted : inserted (past ++ [e]) = inserted past := by simp [inserted_singleton, hi]
  have hremoved : removed (past ++ [e]) = removed past ++ [r] := by simp [removed_singleton, hr]
  refine ⟨?_, fun id token => ?_, fun t ht => ?_, fun x hx => ?_, hinserted ▸ h.own, fun x hx => ?_⟩
  · rw [hafter]
    exact h.keys.sublist (List.filter_sublist.map Prod.fst)
  · rw [standing_eq_some, lastInserted_other hi, hremoved, hafter]
    refine (@mem_filter_ne ⟨id, token⟩ r e.before.cancellations.entries).trans ?_
    rw [h.entries, standing_eq_some, List.mem_append, List.mem_singleton, not_or, and_assoc]
  · rw [drawn_append, drawn_singleton, hd, Option.toList_none, List.append_nil] at ht
    rw [hafter]
    exact h.tokens t ht
  · rw [hinserted] at hx
    rw [drawn_append]
    exact List.mem_append_left _ (h.under x hx)
  · rw [hremoved, List.mem_append, List.mem_singleton] at hx
    rw [hinserted]
    rcases hx with hx | rfl
    · exact h.since x hx
    · exact order.inserted x hr

theorem Books.event (h : Books past e.before) (order : InOrder past e) : Books (past ++ [e]) e.after := by
  cases hi : e.inserts? with
  | some r => exact h.insert hi order
  | none =>
    cases hr : e.removes? with
    | some r => exact h.remove hr order
    | none => exact h.quiet hi hr

/-- The books are right at the end of every history in which registrations are in order. -/
theorem Books.leads (h : Books past w) (hleads : Leads w es w') (orderly : OrderlyAfter past es) :
    Books (past ++ es) w' := by
  induction es generalizing w past with
  | nil =>
    cases hleads
    rwa [List.append_nil]
  | cons e es ih =>
    obtain ⟨rfl, hleads⟩ := hleads
    obtain ⟨order, orderly⟩ := orderly
    have hnext := ih (h.event order) hleads orderly
    rwa [List.append_assoc, List.singleton_append] at hnext

/-! ## What there is to see -/

/-- What becomes of a world in which the token of an id is signalled. -/
structure Signals (id : String) (token : TokenId) (w w' : World) : Prop where
  rest : w' = { w with cancellations := w'.cancellations }
  entries : w'.cancellations.entries = w.cancellations.entries
  tokens : ∀ t, w'.cancellations.isSignalled t = (t = token || w.cancellations.isSignalled t)
  again : World.perform (.tryCancel id) w' = (.signalled, w')

/-- What a history of registrations has come to. -/
structure Standing (es : List Event) (w : World) : Prop where
  /-- An entry is the registration that was inserted last, unless it was removed. -/
  entry : ∀ id, w.cancellations.find? id = (standing id es).map (·.token)
  /-- To remove a registration that has been replaced changes nothing. -/
  stale : ∀ r ∈ inserted es, lastInserted r.invocationId es ≠ some r →
    (World.perform (.removeRegistration r) w).2 = w
  cancel : ∀ id,
    match w.cancellations.find? id with
    | some token => (World.perform (.tryCancel id) w).1 = .signalled ∧
        Signals id token w (World.perform (.tryCancel id) w).2
    | none => World.perform (.tryCancel id) w = (.notFound, w)
  /-- Two registrations do not share a token. -/
  own : ((inserted es).map (·.token)).Nodup
  empty : (∀ r ∈ inserted es, r ∈ removed es) → w.cancellations.isEmpty = true

theorem Books.find (h : Books es w) (id : String) :
    w.cancellations.find? id = (standing id es).map (·.token) := by
  refine Option.ext fun token => ?_
  rw [show w.cancellations.find? id = w.cancellations.entries.lookup id from rfl,
    Entries.lookup_eq_some_iff h.keys, h.entries, Option.map_eq_some_iff]
  constructor
  · intro hs
    exact ⟨_, hs, rfl⟩
  · rintro ⟨x, hs, rfl⟩
    obtain ⟨-, hid⟩ := mem_of_lastInserted (standing_eq_some.1 hs).1
    rw [hs, ← hid]

/-- A token that a registration has is there. -/
theorem Books.token_lt (h : Books es w) (hs : standing id es = some r) : r.token < w.cancellations.tokens.length := by
  obtain ⟨hmem, -⟩ := mem_of_lastInserted (standing_eq_some.1 hs).1
  exact h.tokens _ (h.under r hmem)

theorem Books.stale (h : Books es w) (hlast : lastInserted r.invocationId es ≠ some r) :
    (World.perform (.removeRegistration r) w).2 = w := by
  have hkeep : w.cancellations.remove r = w.cancellations := by
    unfold CancellationRegistry.remove
    rw [List.filter_eq_self.2]
    rintro ⟨id, token⟩ hmem
    rw [decide_eq_true_iff]
    intro heq
    -- an entry that is the registration would be the one that was inserted last
    obtain ⟨rfl, rfl⟩ := Prod.mk.inj heq
    exact hlast (standing_eq_some.1 ((h.entries _ _).1 hmem)).1
  show { w with cancellations := w.cancellations.remove r } = w
  rw [hkeep]

theorem signals_tryCancel (hfound : w.cancellations.find? id = some token)
    (hlt : token < w.cancellations.tokens.length) :
    (World.perform (.tryCancel id) w).1 = .signalled ∧ Signals id token w (World.perform (.tryCancel id) w).2 := by
  have hcancel : w.cancellations.tryCancel id = (.signalled, w.cancellations.signal token) := by
    unfold CancellationRegistry.tryCancel
    rw [hfound]
  have hperform : World.perform (.tryCancel id) w =
      (.signalled, { w with cancellations := w.cancellations.signal token }) := by
    simp only [World.perform, hcancel]
  rw [hperform]
  refine ⟨rfl, rfl, rfl, fun t => ?_, ?_⟩
  · show (w.cancellations.tokens.set token true).getD t false = _
    unfold CancellationRegistry.isSignalled
    rw [List.getD_eq_getElem?_getD, List.getD_eq_getElem?_getD, List.getElem?_set]
    by_cases ht : t = token
    · subst ht
      simp [hlt]
    · simp [ht, Ne.symm ht]
  · have hagain : (w.cancellations.signal token).tryCancel id =
        (.signalled, (w.cancellations.signal token).signal token) := by
      unfold CancellationRegistry.tryCancel
      rw [show (w.cancellations.signal token).find? id = some token from hfound]
    have hset : (w.cancellations.signal token).signal token = w.cancellations.signal token := by
      simp [CancellationRegistry.signal]
    simp only [World.perform, hagain, hset]

/-- Whoever registers and removes invocations, and whatever ids they use, in any order that callers can
come to: the registry stands as its history says. -/
theorem registrations_stand (leads : Leads w es w') (start : w.cancellations.entries = [])
    (orderly : Orderly es) : Standing es w' := by
  have books : Books es w' := (Books.init start).leads leads orderly
  refine ⟨books.find, fun r _ => books.stale, fun id => ?_, books.own, fun hall => ?_⟩
  · have hfind := books.find id
    cases hs : standing id es with
    | none =>
      rw [hs] at hfind
      rw [hfind]
      show World.perform (.tryCancel id) w' = (.notFound, w')
      simp only [World.perform, CancellationRegistry.tryCancel, hfind]
      rfl
    | some r =>
      rw [hs] at hfind
      rw [hfind]
      exact signals_tryCancel hfind (books.token_lt hs)
  · show w'.cancellations.entries.isEmpty = true
    rw [List.isEmpty_iff, List.eq_nil_iff_forall_not_mem]
    rintro ⟨id, token⟩ hmem
    -- what still stands was inserted and not removed
    obtain ⟨hlast, hnot⟩ := standing_eq_some.1 ((books.entries id token).1 hmem)
    exact hnot (hall _ (mem_of_lastInserted hlast).1)

/-- Two registrations under one id, the second one inserted first; the first one to be removed is the one
that was replaced. -/
def overlapping : List Op :=
  [.drawToken, .drawToken, .insertRegistration ⟨"i", 1⟩, .insertRegistration ⟨"i", 0⟩,
    .removeRegistration ⟨"i", 1⟩]

theorem registrations_stand_overlapping :
    Orderly (told {} overlapping) ∧ ∃ w, Leads {} (told {} overlapping) w ∧ Standing (told {} overlapping) w ∧
      standing "i" (told {} overlapping) = some ⟨"i", 0⟩ ∧
      World.perform (.tryCancel "i") w = (.signalled, { cancellations := ⟨[("i", 0)], [true, false]⟩ }) := by
  have orderly : Orderly (told {} overlapping) := by decide +kernel
  have leads := leads_told {} overlapping
  exact ⟨orderly, _, leads, registrations_stand leads rfl orderly, by decide +kernel, rfl⟩

end FunctionWorker
