/-
The order of a chain and what comes of it. A converter is added at the end, or immediately before the first one of a
name; the others keep their order, and where there is no such name nothing changes. A request is answered with the
value of the first converter in that order that succeeds, whatever the others make of it, and no converter after that
one is run; if none succeeds, the error tells the first failure, or that there was nothing to convert.
-/
import FunctionWorker.Proofs.Invocation.Stages
import FunctionWorker.Proofs.Session

namespace FunctionWorker.ConverterChain

/-! ## Changes of a chain -/

inductive Edit where
  | push (x : Converter)
  | insertBefore (anchor : String) (x : Converter)

def Edit.converter : Edit → Converter
  | .push x | .insertBefore _ x => x

/-- Changes a chain. One that is refused stays as it is. -/
def edit (c : ConverterChain) : Edit → Except ConversionError Unit × ConverterChain
  | .push x => (.ok (), c.push x)
  | .insertBefore anchor x =>
    match c.insertBefore anchor x with
    | .ok d => (.ok (), d)
    | .error e => (.error e, c)

/-- What comes of a chain by changes one after another. -/
def edited (c : ConverterChain) (edits : List Edit) : ConverterChain := edits.foldl (fun c e => (c.edit e).2) c

abbrev Edited := Answered ConverterChain Edit (Except ConversionError Unit)

/-- The converter that a change has added. -/
def Edited.added? (m : Edited) : Option Converter :=
  match m.reply with
  | .ok () => some m.request.converter
  | .error _ => none

/-- Where a change puts a converter. -/
inductive Places (c : ConverterChain) : Edit → Except ConversionError Unit → ConverterChain → Prop
  | appended {x} : Places c (.push x) (.ok ()) ⟨c.converters ++ [x]⟩
  | inserted {anchor x y before after} (hconverters : c.converters = before ++ y :: after) (hanchor : y.name = anchor)
      (hfirst : ∀ z ∈ before, z.name ≠ anchor) :
      Places c (.insertBefore anchor x) (.ok ()) ⟨before ++ x :: y :: after⟩
  | unknown {anchor x} (hnone : ∀ z ∈ c.converters, z.name ≠ anchor) :
      Places c (.insertBefore anchor x) (.error (.unknownConverter anchor)) c

/-! ## What converters are asked -/

/-- A converter with what it made of a request. -/
abbrev Attempt := Converter × Conversion

/-- The failure that an attempt leaves behind. -/
def failure? (a : Attempt) : Option String :=
  match a.2 with
  | .failed reason => some (a.1.name ++ ": " ++ reason)
  | _ => none

/-- Converters that are asked one after another and do not succeed. -/
inductive Declines (r : BindingRequest) : List Attempt → World → List Event → World → Prop
  | nil {w es w'} (hothers : Others es) (hleads : Leads w es w') : Declines r [] w es w'
  | cons {x a rest w v w' es₁ es₂} (hrun : Job.Run (Code.job (x.convert r)) w es₁ (.ok a) v)
      (hdeclined : ∀ value, a ≠ .succeeded value) (hrest : Declines r rest v es₂ w') :
      Declines r ((x, a) :: rest) w (es₁ ++ es₂) w'

/-- What comes of a request to converters in order, where `failure` has been recorded before. -/
inductive Resolves (r : BindingRequest) (failure : Option String) (converters : List Converter) (w : World) :
    List Event → Except Panic (Except ConversionError Converted) → World → Prop
  | bound {declined x after value v w' es₁ es₂} (hconverters : converters = declined.map Prod.fst ++ x :: after)
      (hdeclined : Declines r declined w es₁ v)
      (hrun : Job.Run (Code.job (x.convert r)) v es₂ (.ok (.succeeded value)) w') :
      Resolves r failure converters w (es₁ ++ es₂) (.ok (.ok ⟨value, x.name⟩)) w'
  | missing {declined es w'} (hconverters : converters = declined.map Prod.fst)
      (hdeclined : Declines r declined w es w') (hsource : r.source = none) :
      Resolves r failure converters w es (.ok (.error (.missing r.parameter.name r.parameter.type.name))) w'
  | noConverter {declined es w' source} (hconverters : converters = declined.map Prod.fst)
      (hdeclined : Declines r declined w es w') (hsource : r.source = some source) :
      Resolves r failure converters w es (.ok (.error (.noConverter r.parameter.name r.parameter.type.name source.kind
        (failure.or (declined.findSome? failure?))))) w'
  | panicked {declined x after p v w' es₁ es₂} (hconverters : converters = declined.map Prod.fst ++ x :: after)
      (hdeclined : Declines r declined w es₁ v)
      (hrun : Job.Run (Code.job (x.convert r)) v es₂ (.error p) w') :
      Resolves r failure converters w (es₁ ++ es₂) (.error p) w'

variable {c d : ConverterChain} {e : Edit} {reply : Except ConversionError Unit} {r : BindingRequest}
  {failure : Option String} {converters : List Converter} {w v w' : World} {es es₁ es₂ : List Event}
  {outcome : Except Panic (Except ConversionError Converted)}

/-! ## One change -/

theorem before_eq_none {α : Type} {p : α → Bool} {x : α} : ∀ {l : List α}, before p x l = none ↔ ∀ y ∈ l, p y = false
  | [] => by simp [before]
  | y :: ys => by
    unfold before
    by_cases h : p y = true
    · simp [h]
    · simp [h, before_eq_none (l := ys)]

theorem before_eq_some {α : Type} {p : α → Bool} {x : α} : ∀ {l l' : List α}, before p x l = some l' →
    ∃ front y rest, l = front ++ y :: rest ∧ l' = front ++ x :: y :: rest ∧ p y = true ∧ ∀ z ∈ front, p z = false
  | [], _, h => by simp [before] at h
  | y :: ys, l', h => by
    unfold before at h
    by_cases hy : p y = true
    · rw [if_pos hy] at h
      cases h
      exact ⟨[], y, ys, rfl, rfl, hy, by simp⟩
    · rw [if_neg hy] at h
      obtain ⟨l'', hl, rfl⟩ := Option.map_eq_some_iff.1 h
      obtain ⟨front, z, rest, rfl, rfl, hz, hfront⟩ := before_eq_some hl
      refine ⟨y :: front, z, rest, rfl, rfl, hz, ?_⟩
      simpa [hy] using hfront

/-- A change puts the converter where it says. -/
theorem places (c : ConverterChain) (e : Edit) : Places c e (c.edit e).1 (c.edit e).2 := by
  cases e with
  | push x => exact .appended
  | insertBefore anchor x =>
    cases h : before (·.name == anchor) x c.converters with
    | none =>
      have hedit : c.edit (.insertBefore anchor x) = (.error (.unknownConverter anchor), c) := by
        simp only [edit, insertBefore, h]
      rw [hedit]
      refine .unknown fun z hz => ?_
      simpa using before_eq_none.1 h z hz
    | some xs =>
      have hedit : c.edit (.insertBefore anchor x) = (.ok (), ⟨xs⟩) := by simp only [edit, insertBefore, h]
      obtain ⟨front, y, rest, hconverters, rfl, hy, hfront⟩ := before_eq_some h
      rw [hedit]
      refine .inserted hconverters (by simpa using hy) fun z hz => ?_
      simpa using hfront z hz

/-- The converters that were there keep their order. -/
theorem Places.sublist (h : Places c e reply d) : c.converters.Sublist d.converters := by
  cases h with
  | appended => exact List.sublist_append_left _ _
  | inserted hconverters =>
    rw [hconverters]
    exact List.Sublist.append_left (List.sublist_cons_self _ _) _
  | unknown => exact List.Sublist.refl _

/-! ## Changes one after another -/

theorem edited_sublist (c : ConverterChain) (edits : List Edit) : c.converters.Sublist (c.edited edits).converters := by
  induction edits generalizing c with
  | nil => exact List.Sublist.refl _
  | cons e edits ih => exact (places c e).sublist.trans (ih (c.edit e).2)

/-- A chain has the converters that it had, and one that is added. -/
theorem Places.perm (h : Places c e reply d) (before after : ConverterChain) :
    d.converters.Perm (c.converters ++ (Edited.added? ⟨e, before, reply, after⟩).toList) := by
  cases h with
  | appended => exact List.Perm.refl _
  | @inserted anchor x y front rest hconverters =>
    rw [hconverters]
    exact List.perm_middle.trans (List.perm_append_singleton x _).symm
  | unknown =>
    rw [show Edited.added? ⟨_, before, .error _, after⟩ = none from rfl]
    simp

theorem edited_perm (c : ConverterChain) (edits : List Edit) :
    (c.edited edits).converters.Perm (c.converters ++ (session edit c edits).filterMap Edited.added?) := by
  induction edits generalizing c with
  | nil => simp [edited, session]
  | cons e edits ih =>
    have hplaces := (places c e).perm c (c.edit e).2
    have hadded : (session edit c (e :: edits)).filterMap Edited.added? =
        (Edited.added? ⟨e, c, (c.edit e).1, (c.edit e).2⟩).toList ++
          (session edit (c.edit e).2 edits).filterMap Edited.added? := by
      rw [session, List.filterMap_cons]
      cases Edited.added? ⟨e, c, (c.edit e).1, (c.edit e).2⟩ <;> rfl
    rw [hadded, ← List.append_assoc]
    exact (ih (c.edit e).2).trans (hplaces.append_right _)

/-! ## A request -/

/-- Failures are recorded in order, and the first of them is kept. -/
theorem recorded_cons (a : Attempt) (rest : List Attempt) : failure.or ((a :: rest).findSome? failure?) =
    (failure.or (failure? a)).or (rest.findSome? failure?) := by
  rw [List.findSome?_cons, Option.or_assoc]
  cases failure? a <;> rfl

/-- The next converter is asked, and the others are if it does not succeed. -/
theorem convertWith_cons (x : Converter) (xs : List Converter) : convertWith r failure (x :: xs) =
    Code.job (x.convert r) >>= fun a =>
      match a with
      | .succeeded value => pure (.ok ⟨value, x.name⟩)
      | a => convertWith r (failure.or (failure? (x, a))) xs := by
  rw [convertWith]
  congr 1
  funext a
  cases a with
  | unhandled =>
    show convertWith r failure xs = convertWith r (failure.or none) xs
    rw [Option.or_none]
  | succeeded | failed => rfl

/-- Asking converters that do not succeed comes to asking those after them, with the first failure in mind. -/
theorem Declines.run {declined : List Attempt} (h : Declines r declined w es₁ v)
    (hrest : Job.Run (convertWith r (failure.or (declined.findSome? failure?)) converters) v es₂ outcome w') :
    Job.Run (convertWith r failure (declined.map Prod.fst ++ converters)) w (es₁ ++ es₂) outcome w' := by
  induction h generalizing failure with
  | nil hothers hleads =>
    rw [List.findSome?_nil, Option.or_none] at hrest
    exact hrest.after_others hothers hleads
  | @cons x a rest w u v es₁ es₃ hrun hdeclined hdeclines ih =>
    rw [recorded_cons] at hrest
    rw [List.append_assoc, List.map_cons, List.cons_append, convertWith_cons]
    refine Job.Run.bind ?_ hrun
    cases a with
    | succeeded value => exact absurd rfl (hdeclined value)
    | failed | unhandled => exact ih hrest

/-- A converter that does not succeed is one more that has been asked. -/
theorem Resolves.declined {x : Converter} {a : Conversion} (hrun : Job.Run (Code.job (x.convert r)) w es₁ (.ok a) v)
    (ha : ∀ value, a ≠ .succeeded value)
    (h : Resolves r (failure.or (failure? (x, a))) converters v es₂ outcome w') :
    Resolves r failure (x :: converters) w (es₁ ++ es₂) outcome w' := by
  cases h with
  | bound hconverters hdeclined hlast =>
    rw [← List.append_assoc]
    exact .bound (by rw [hconverters]; rfl) (.cons hrun ha hdeclined) hlast
  | missing hconverters hdeclined hsource =>
    exact .missing (by rw [hconverters]; rfl) (.cons hrun ha hdeclined) hsource
  | noConverter hconverters hdeclined hsource =>
    rw [← recorded_cons]
    exact .noConverter (by rw [hconverters]; rfl) (.cons hrun ha hdeclined) hsource
  | panicked hconverters hdeclined hlast =>
    rw [← List.append_assoc]
    exact .panicked (by rw [hconverters]; rfl) (.cons hrun ha hdeclined) hlast

/-- A request is resolved as it runs. -/
theorem resolves_of_run (h : Job.Run (convertWith r failure converters) w es outcome w') :
    Resolves r failure converters w es outcome w' := by
  induction converters generalizing failure w es with
  | nil =>
    obtain ⟨hothers, hleads, rfl⟩ := h
    cases hsource : r.source with
    | none =>
      rw [show exhausted r failure = .missing r.parameter.name r.parameter.type.name by simp [exhausted, hsource]]
      exact .missing (by rfl) (.nil hothers hleads) hsource
    | some source =>
      have herror : exhausted r failure = .noConverter r.parameter.name r.parameter.type.name source.kind
          (failure.or (([] : List Attempt).findSome? failure?)) := by
        simp [exhausted, hsource]
      rw [herror]
      exact .noConverter (by rfl) (.nil hothers hleads) hsource
  | cons x converters ih =>
    rw [convertWith_cons] at h
    rcases Job.Run.bind_inv h with ⟨a, es₁, es₂, v, rfl, hrun, hrest⟩ | ⟨p, rfl, hrun⟩
    · cases a with
      | succeeded value =>
        -- what others do once it has succeeded still belongs to its run
        obtain ⟨hothers, hleads, rfl⟩ := hrest
        rw [← List.nil_append (es₁ ++ es₂)]
        exact .bound (by rfl) (.nil others_nil rfl) (hrun.before_others hothers hleads)
      | failed | unhandled => exact .declined hrun nofun (ih hrest)
    · rw [← List.nil_append es]
      exact .panicked (by rfl) (.nil others_nil rfl) hrun

/-- Where no converter is left, the error tells the first failure. -/
theorem Declines.exhausted {declined : List Attempt} (h : Declines r declined w es w') (failure : Option String) :
    Job.Run (convertWith r failure (declined.map Prod.fst)) w es
      (.ok (.error (exhausted r (failure.or (declined.findSome? failure?))))) w' := by
  have hend : Job.Run (convertWith r (failure.or (declined.findSome? failure?)) []) w' []
      (.ok (.error (ConverterChain.exhausted r (failure.or (declined.findSome? failure?))))) w' :=
    ⟨others_nil, rfl, rfl⟩
  simpa using h.run hend

theorem Resolves.run (h : Resolves r failure converters w es outcome w') :
    Job.Run (convertWith r failure converters) w es outcome w' := by
  cases h with
  | @bound _ _ _ _ _ _ _ es₂ hconverters hdeclined hrun =>
    rw [hconverters]
    refine hdeclined.run ?_
    rw [convertWith_cons, ← List.append_nil es₂]
    refine Job.Run.bind ?_ hrun
    exact ⟨others_nil, rfl, rfl⟩
  | missing hconverters hdeclined hsource =>
    have hrun := hdeclined.exhausted failure
    rw [hconverters]
    simpa [ConverterChain.exhausted, hsource] using hrun
  | noConverter hconverters hdeclined hsource =>
    have hrun := hdeclined.exhausted failure
    rw [hconverters]
    simpa [ConverterChain.exhausted, hsource] using hrun
  | panicked hconverters hdeclined hrun =>
    rw [hconverters]
    refine hdeclined.run ?_
    rw [convertWith_cons]
    exact hrun.bind_panic

/-! ## Chains however they are built -/

/-- However a chain is changed, each change puts its converter where it says or is refused without consequence, and
the converters that were there keep their order. A request to the chain that comes of it, for any parameter and
source and whatever the converters do, is answered with the value of the first converter that succeeds, after which
none is run; if none does, with an error that tells the first failure, or that there was nothing to convert. -/
theorem edited_convert (c : ConverterChain) (edits : List Edit) :
    (∀ past m later, session edit c edits = past ++ m :: later → Places m.before m.request m.reply m.after) ∧
    (c.converters.Sublist (c.edited edits).converters ∧
      (c.edited edits).converters.Perm (c.converters ++ (session edit c edits).filterMap Edited.added?)) ∧
    ∀ r w, (∃ es outcome w', Job.Run ((c.edited edits).convert r) w es outcome w') ∧
      ∀ es outcome w', Job.Run ((c.edited edits).convert r) w es outcome w' ↔
        Resolves r none (c.edited edits).converters w es outcome w' := by
  refine ⟨fun past m later h => ?_, ⟨edited_sublist c edits, edited_perm c edits⟩, fun r w => ⟨?_, ?_⟩⟩
  · have hplaces := places m.before m.request
    rwa [session_answer h] at hplaces
  · obtain ⟨es, -, hrun⟩ := Job.run_alone ((c.edited edits).convert r) w
    exact ⟨es, _, _, hrun⟩
  · intro es outcome w'
    constructor
    · exact resolves_of_run
    · exact Resolves.run

/-- Of several converters of one name the first is the anchor, and a name that none has changes nothing. -/
example (f : BindingRequest → Conversion) :
    (edited ⟨[.ofFunction "a" f, .ofFunction "b" f]⟩
      [.push (.ofFunction "a" f), .insertBefore "c" (.ofFunction "d" f), .insertBefore "a" (.ofFunction "e" f)]).names =
      ["e", "a", "b", "a"] := by rfl

end FunctionWorker.ConverterChain
