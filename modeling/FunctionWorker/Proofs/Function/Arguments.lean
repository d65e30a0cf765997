/-
Arguments that are asked for again and again, by place and by name, as values of any type. A request is for one
place, that of the first parameter of a name where it gives a name. An argument is delivered at most once, to the
first request for it that asks for its own type; every other request is refused and leaves all arguments where they
are, so that one that asks rightly still gets what has not been delivered.
-/
import FunctionWorker.Function.Arguments
import FunctionWorker.Proofs.Session

namespace FunctionWorker.Arguments

/-! ## Requests -/

inductive Request where
  | take (index : Nat) (typeName : String)
  | takeNamed (name typeName : String)

def Request.typeName : Request → String
  | .take _ typeName | .takeNamed _ typeName => typeName

def ask (a : Arguments) : Request → Except FunctionError Datum × Arguments
  | .take index typeName => a.take index typeName
  | .takeNamed name typeName => a.takeNamed name typeName

abbrev Asked := Answered Arguments Request (Except FunctionError Datum)

/-- The place of the argument that a request is for. Of the parameters of a name, whatever their case, the first is
meant. -/
inductive Aims (bound : List (String × Datum)) : Request → Nat → Prop
  | place {i typeName} : Aims bound (.take i typeName) i
  | first {before entry after name typeName} (hbound : bound = before ++ entry :: after)
      (hname : Text.sameName entry.1 name = true) (hfirst : ∀ e ∈ before, Text.sameName e.1 name = false) :
      Aims bound (.takeNamed name typeName) before.length

/-- The argument at a place has been delivered. -/
def DeliveredIn (bound : List (String × Datum)) (past : List Asked) (i : Nat) : Prop :=
  ∃ p ∈ past, Aims bound p.request i ∧ ∃ d, p.reply = .ok d

/-- How a request is answered after others, and what is left of the arguments. -/
inductive Answers (bound : List (String × Datum)) (past : List Asked) (a : Arguments) (q : Request) :
    Except FunctionError Datum → Arguments → Prop
  | delivered {i name d} (haims : Aims bound q i) (hbound : bound[i]? = some (name, d))
      (htype : d.typeName = q.typeName) (hnew : ¬ DeliveredIn bound past i) :
      Answers bound past a q (.ok d) { a with slots := a.slots.set i none }
  | mistyped {i name d} (haims : Aims bound q i) (hbound : bound[i]? = some (name, d))
      (htype : d.typeName ≠ q.typeName) (hnew : ¬ DeliveredIn bound past i) :
      Answers bound past a q (.error (refusal s!"argument {i} is not a {q.typeName}")) a
  | taken {i} (haims : Aims bound q i) (hbound : i < bound.length) (hgone : DeliveredIn bound past i) :
      Answers bound past a q (.error (refusal s!"argument {i} already taken")) a
  | absent {i} (haims : Aims bound q i) (hbound : bound.length ≤ i) :
      Answers bound past a q (.error (refusal s!"no argument at index {i}")) a
  | unknown {name typeName} (hq : q = .takeNamed name typeName)
      (hname : ∀ e ∈ bound, Text.sameName e.1 name = false) :
      Answers bound past a q (.error (refusal ("no argument named '" ++ name ++ "'"))) a

/-- What there is at a place after requests. -/
inductive Slot (bound : List (String × Datum)) (past : List Asked) (a : Arguments) (i : Nat) : Prop
  | kept {name d} (hbound : bound[i]? = some (name, d)) (hnew : ¬ DeliveredIn bound past i)
      (hslot : a.slots[i]? = some (some d))
  | empty (hbound : i < bound.length) (hgone : DeliveredIn bound past i) (hslot : a.slots[i]? = some none)
  | absent (hbound : bound.length ≤ i) (hslot : a.slots[i]? = none)

/-- How arguments stand after requests for them. -/
structure Standing (bound : List (String × Datum)) (past : List Asked) (a : Arguments) : Prop where
  names : a.names = bound.map (·.1)
  slots : ∀ i, Slot bound past a i

/-- What holds of a request that was made after others. -/
structure Orderly (bound : List (String × Datum)) (past : List Asked) (m : Asked) : Prop where
  /-- The answer tells what was asked before. -/
  answers : Answers bound past m.before m.request m.reply m.after
  /-- No argument is delivered that has been delivered before. -/
  once : ∀ i d, Aims bound m.request i → m.reply = .ok d → ¬ DeliveredIn bound past i
  /-- A request that is refused changes nothing. -/
  refused : ∀ e, m.reply = .error e → m.after = m.before
  /-- To ask by name is to ask for the first place of that name. -/
  named : ∀ name typeName i, Aims bound (.takeNamed name typeName) i →
    m.before.takeNamed name typeName = m.before.take i typeName
  /-- What has not been delivered yet is delivered to whoever asks for it as its own type. -/
  kept : ∀ q i name d, Aims bound q i → bound[i]? = some (name, d) → d.typeName = q.typeName →
    ¬ DeliveredIn bound (past ++ [m]) i → (m.after.ask q).1 = .ok d

variable {bound : List (String × Datum)} {past : List Asked} {m : Asked} {a a' : Arguments} {q : Request}
  {reply : Except FunctionError Datum} {name typeName : String} {d : Datum} {i j : Nat}

/-! ## Places -/

/-- A request is for one place. -/
theorem Aims.unique (hi : Aims bound q i) (hj : Aims bound q j) : i = j := by
  cases hi with
  | place =>
    cases hj
    rfl
  | @first before entry _ name _ hbound hname hfirst =>
    cases hj with
    | @first before' entry' _ _ _ hbound' hname' hfirst' =>
      -- neither of the two comes before the other
      rcases Nat.lt_trichotomy before.length before'.length with hlt | heq | hgt
      · have hmem : entry ∈ before' := by
          have hget : bound[before.length]? = some entry := by simp [hbound]
          rw [hbound', List.getElem?_append_left hlt] at hget
          exact List.mem_of_getElem? hget
        exact absurd hname (by simp [hfirst' entry hmem])
      · exact heq
      · have hmem : entry' ∈ before := by
          have hget : bound[before'.length]? = some entry' := by simp [hbound']
          rw [hbound, List.getElem?_append_left hgt] at hget
          exact List.mem_of_getElem? hget
        exact absurd hname' (by simp [hfirst entry' hmem])

/-- A request is for a place, or for a name that no parameter has. -/
theorem aims_or_unknown (bound : List (String × Datum)) (q : Request) :
    (∃ i, Aims bound q i) ∨
      ∃ name typeName, q = .takeNamed name typeName ∧ ∀ e ∈ bound, Text.sameName e.1 name = false := by
  cases q with
  | take i typeName => exact .inl ⟨i, .place⟩
  | takeNamed name typeName =>
    cases hfind : bound.find? (fun e => Text.sameName e.1 name) with
    | none =>
      right
      refine ⟨name, typeName, rfl, fun e he => ?_⟩
      simpa using List.find?_eq_none.1 hfind e he
    | some entry =>
      left
      obtain ⟨hname, before, after, hbound, hfirst⟩ := List.find?_eq_some_iff_append.1 hfind
      exact ⟨_, .first hbound hname fun e he => by simpa using hfirst e he⟩

/-! ## One request -/

theorem takeNamed_aims (hnames : a.names = bound.map (·.1)) (h : Aims bound (.takeNamed name typeName) i) :
    a.takeNamed name typeName = a.take i typeName := by
  cases h with
  | @first before entry _ _ _ hbound hname hfirst =>
    have hnone : (before.map (·.1)).findIdx? (Text.sameName · name) = none := by
      rw [List.findIdx?_eq_none_iff]
      simpa using hfirst
    have hfind : a.names.findIdx? (Text.sameName · name) = some before.length := by
      rw [hnames, hbound, List.map_append, List.findIdx?_append, hnone]
      simp [List.findIdx?_cons, hname]
    simp [takeNamed, hfind]

theorem takeNamed_unknown (hnames : a.names = bound.map (·.1))
    (h : ∀ e ∈ bound, Text.sameName e.1 name = false) :
    a.takeNamed name typeName = (.error (refusal ("no argument named '" ++ name ++ "'")), a) := by
  have hfind : a.names.findIdx? (Text.sameName · name) = none := by
    rw [hnames, List.findIdx?_eq_none_iff]
    simpa using h
  simp [takeNamed, hfind]

theorem ask_aims (hnames : a.names = bound.map (·.1)) (h : Aims bound q i) : a.ask q = a.take i q.typeName := by
  cases q with
  | take =>
    cases h
    rfl
  | takeNamed => exact takeNamed_aims hnames h

/-! ## What requests keep -/

theorem deliveredIn_append : DeliveredIn bound (past ++ [m]) i ↔
    DeliveredIn bound past i ∨ Aims bound m.request i ∧ ∃ d, m.reply = .ok d := by
  unfold DeliveredIn
  simp only [List.mem_append, List.mem_singleton, or_and_right, exists_or, exists_eq_left]

theorem standing_ofList (bound : List (String × Datum)) : Standing bound [] (ofList bound) := by
  have hnew : ∀ i, ¬ DeliveredIn bound [] i := by simp [DeliveredIn]
  refine ⟨rfl, fun i => ?_⟩
  by_cases hi : i < bound.length
  · have hbound : bound[i]? = some (bound[i].1, bound[i].2) := by simp [hi]
    exact .kept hbound (hnew i) (by simp [ofList, hi])
  · exact .absent (by omega) (by simpa [ofList] using hi)

/-- Where arguments stand as they should, a request is answered as it should be. -/
theorem Standing.answers (h : Standing bound past a) (hask : a.ask q = (reply, a')) :
    Answers bound past a q reply a' := by
  rcases aims_or_unknown bound q with ⟨i, haims⟩ | ⟨name, typeName, rfl, hname⟩
  · rw [ask_aims h.names haims, take] at hask
    cases h.slots i with
    | @kept name d hbound hnew hslot =>
      rw [hslot] at hask
      dsimp only at hask
      by_cases htype : d.typeName = q.typeName
      · rw [if_pos htype] at hask
        cases hask
        exact .delivered haims hbound htype hnew
      · rw [if_neg htype] at hask
        cases hask
        exact .mistyped haims hbound htype hnew
    | empty hbound hgone hslot =>
      rw [hslot] at hask
      cases hask
      exact .taken haims hbound hgone
    | absent hbound hslot =>
      rw [hslot] at hask
      cases hask
      exact .absent haims hbound
  · rw [ask, takeNamed_unknown h.names hname] at hask
    cases hask
    exact .unknown rfl hname

theorem Answers.once (h : Answers bound past a q (.ok d) a') (haims : Aims bound q i) : ¬ DeliveredIn bound past i := by
  cases h with
  | delivered haims' _ _ hnew => rwa [haims.unique haims']

theorem Answers.unchanged {e : FunctionError} (h : Answers bound past a q (.error e) a') : a' = a := by
  cases h with
  | mistyped | taken | absent | unknown => rfl

/-- A request that is refused leaves the arguments as they stand. -/
theorem Standing.refused {e : FunctionError} (h : Standing bound past m.before) (hreply : m.reply = .error e)
    (hafter : m.after = m.before) : Standing bound (past ++ [m]) m.after := by
  have hsame : ∀ i, DeliveredIn bound (past ++ [m]) i ↔ DeliveredIn bound past i := by
    intro i
    rw [deliveredIn_append]
    simp [hreply]
  rw [hafter]
  refine ⟨h.names, fun i => ?_⟩
  cases h.slots i with
  | kept hbound hnew hslot => exact .kept hbound (mt (hsame i).1 hnew) hslot
  | empty hbound hgone hslot => exact .empty hbound ((hsame i).2 hgone) hslot
  | absent hbound hslot => exact .absent hbound hslot

/-- A request that is answered with an argument empties its place and no other. -/
theorem Standing.delivered (h : Standing bound past m.before) (haims : Aims bound m.request i)
    (hi : i < bound.length) (hreply : m.reply = .ok d)
    (hafter : m.after = { m.before with slots := m.before.slots.set i none }) :
    Standing bound (past ++ [m]) m.after := by
  rw [hafter]
  refine ⟨h.names, fun j => ?_⟩
  by_cases hj : i = j
  · subst hj
    have hsize : i < m.before.slots.length := by
      cases h.slots i with
      | kept _ _ hslot | empty _ _ hslot => exact (List.getElem?_eq_some_iff.1 hslot).1
      | absent hbound _ => omega
    exact .empty hi (deliveredIn_append.2 (.inr ⟨haims, d, hreply⟩)) (by simp [hsize])
  · have hsame : DeliveredIn bound (past ++ [m]) j ↔ DeliveredIn bound past j :=
      deliveredIn_append.trans (or_iff_left fun ⟨haims', _⟩ => hj (haims.unique haims'))
    have hslot : (m.before.slots.set i none)[j]? = m.before.slots[j]? := List.getElem?_set_ne hj
    cases h.slots j with
    | kept hbound hnew hold => exact .kept hbound (mt hsame.1 hnew) (hslot.trans hold)
    | empty hbound hgone hold => exact .empty hbound (hsame.2 hgone) (hslot.trans hold)
    | absent hbound hold => exact .absent hbound (hslot.trans hold)

theorem Standing.step (h : Standing bound past m.before)
    (hanswers : Answers bound past m.before m.request m.reply m.after) : Standing bound (past ++ [m]) m.after := by
  obtain ⟨request, before, reply, after⟩ := m
  dsimp only at h hanswers ⊢
  cases hanswers with
  | delivered haims hbound => exact h.delivered haims (List.getElem?_eq_some_iff.1 hbound).1 rfl rfl
  | mistyped | taken | absent | unknown => exact h.refused rfl rfl

/-! ## Requests one after another -/

theorem Standing.kept (h : Standing bound past a) (haims : Aims bound q i) (hbound : bound[i]? = some (name, d))
    (htype : d.typeName = q.typeName) (hnew : ¬ DeliveredIn bound past i) : (a.ask q).1 = .ok d := by
  rw [ask_aims h.names haims, take]
  cases h.slots i with
  | kept hbound' _ hslot =>
    obtain ⟨-, rfl⟩ := Prod.mk.inj (Option.some.inj (hbound.symm.trans hbound'))
    rw [hslot]
    simp [htype]
  | empty _ hgone => exact absurd hgone hnew
  | absent hnone =>
    rw [List.getElem?_eq_none hnone] at hbound
    cases hbound

theorem Standing.orderly (h : Standing bound past m.before) (hm : m.before.ask m.request = (m.reply, m.after)) :
    Orderly bound past m := by
  have hanswers := h.answers hm
  constructor
  case answers => exact hanswers
  case once =>
    intro i d haims hreply
    rw [hreply] at hanswers
    exact hanswers.once haims
  case refused =>
    intro e hreply
    rw [hreply] at hanswers
    exact hanswers.unchanged
  case named =>
    intro name typeName i haims
    exact takeNamed_aims h.names haims
  case kept =>
    intro q i name d haims hbound htype hnew
    exact (h.step hanswers).kept haims hbound htype hnew

/-- Whatever is asked for of the arguments of a call, by place or by name and as whatever type, each argument is
delivered at most once and only as its own type, a request that is refused changes nothing, and what has not been
delivered is there for the first who asks for it rightly. -/
theorem requests_orderly (bound : List (String × Datum)) (requests : List Request) {past later : List Asked} {m : Asked}
    (h : session ask (ofList bound) requests = past ++ m :: later) : Orderly bound past m := by
  obtain ⟨hstanding, hm⟩ := session_keeps (fun hm hstanding => hstanding.step (hstanding.answers hm))
    (standing_ofList bound) h
  exact hstanding.orderly hm

/-- A call with two parameters of one name, the second of which is asked for as another type before it is delivered
and in vain afterwards. -/
theorem requests_orderly_twins :
    let bound : List (String × Datum) := [("x", .bool true), ("X", .i64 7)]
    let asked := session ask (ofList bound)
      [.take 1 "bool", .take 1 "i64", .take 1 "i64", .takeNamed "X" "bool"]
    (asked.take 3).map (·.reply) = [.error (refusal "argument 1 is not a bool"), .ok (.i64 7),
      .error (refusal "argument 1 already taken")] ∧
    ∃ m later, asked = asked.take 1 ++ m :: later ∧ Orderly bound (asked.take 1) m :=
  ⟨rfl, _, _, rfl, requests_orderly [("x", .bool true), ("X", .i64 7)]
    [.take 1 "bool", .take 1 "i64", .take 1 "i64", .takeNamed "X" "bool"] (show _ = _ ++ _ :: _ from rfl)⟩

end FunctionWorker.Arguments
