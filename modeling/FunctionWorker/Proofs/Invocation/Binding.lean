/-
How a function comes to be called. Its parameters are bound one after another, each to the invocation's own
context or token or to what the converters make of its source, up to the first that cannot be bound; the function
is called with what they were bound to, unless the token is signalled by then.
-/
import FunctionWorker.Proofs.Conversion.Chain
import FunctionWorker.Proofs.Invocation.Collection
import FunctionWorker.Proofs.Invocation.Stages

namespace FunctionWorker.Pipeline

/-! ## Parameters -/

/-- The value of a parameter that needs no converter. -/
inductive OwnValue (c : ContextId) (facts : ContextFacts) (q : Parameter) : Datum → Prop
  | context (hrole : q.role = .context) (hshape : q.type.shape = .context) : OwnValue c facts q (.context c)
  | token (hrole : q.role = .context) (hshape : q.type.shape = .cancellation) :
      OwnValue c facts q (.token facts.token)

/-- The source of a parameter: the first input of its name, whatever the case, or else the first trigger
metadata of its name. Parameters for outputs and contexts have none. -/
inductive Source (facts : ContextFacts) (q : Parameter) : Option WireValue → Prop
  | input {before v after} (hrole : q.role = .input ∨ q.role = .trigger)
      (hinputs : facts.inputs = before ++ v :: after) (hname : Text.sameName v.name q.name = true)
      (hfirst : ∀ x ∈ before, Text.sameName x.name q.name = false) : Source facts q (some v.value)
  | metadata {before name v after} (hrole : q.role = .input ∨ q.role = .trigger)
      (hinputs : ∀ x ∈ facts.inputs, Text.sameName x.name q.name = false)
      (hmetadata : facts.triggerMetadata = before ++ (name, v) :: after)
      (hname : Text.sameName name q.name = true)
      (hfirst : ∀ x ∈ before, Text.sameName x.1 q.name = false) : Source facts q (some v)
  | absent (hrole : q.role = .input ∨ q.role = .trigger)
      (hinputs : ∀ x ∈ facts.inputs, Text.sameName x.name q.name = false)
      (hmetadata : ∀ x ∈ facts.triggerMetadata, Text.sameName x.1 q.name = false) : Source facts q none
  | sourceless (hrole : q.role = .output ∨ q.role = .context) : Source facts q none

variable {p : Pipeline} {c : ContextId} {facts : ContextFacts} {q : Parameter}

theorem ownValue_of_own {d : Datum} (h : own? c facts q = some d) : OwnValue c facts q d := by
  unfold own? at h
  split at h
  · next hrole hshape =>
    obtain rfl := Option.some.inj h
    exact .context hrole hshape
  · next hrole hshape =>
    obtain rfl := Option.some.inj h
    exact .token hrole hshape
  · cases h

theorem own_of_ownValue {d : Datum} (h : OwnValue c facts q d) : own? c facts q = some d := by
  cases h with
  | context hrole hshape => rw [own?, hrole, hshape]
  | token hrole hshape => rw [own?, hrole, hshape]

/-- What is found under a name is the first of the name. -/
theorem first_of_find {α : Type} {f : α → String} {name : String} {l : List α} {a : α}
    (h : l.find? (fun x => Text.sameName (f x) name) = some a) : Text.sameName (f a) name = true ∧
      ∃ before after, l = before ++ a :: after ∧ ∀ x ∈ before, Text.sameName (f x) name = false := by
  obtain ⟨ha, before, after, hl, hbefore⟩ := List.find?_eq_some_iff_append.1 h
  exact ⟨ha, before, after, hl, fun x hx => Bool.not_eq_true' _ ▸ hbefore x hx⟩

theorem find_of_first {α : Type} {f : α → String} {name : String} {before after : List α} {a : α}
    (ha : Text.sameName (f a) name = true) (hfirst : ∀ x ∈ before, Text.sameName (f x) name = false) :
    (before ++ a :: after).find? (fun x => Text.sameName (f x) name) = some a :=
  List.find?_eq_some_iff_append.2 ⟨ha, before, after, rfl, fun x hx => by simp [hfirst x hx]⟩

theorem find_eq_none {α : Type} {f : α → String} {name : String} {l : List α} :
    l.find? (fun x => Text.sameName (f x) name) = none ↔ ∀ x ∈ l, Text.sameName (f x) name = false := by
  simp only [List.find?_eq_none, Bool.not_eq_true]

theorem source_of_named (hrole : q.role = .input ∨ q.role = .trigger) : Source facts q (facts.source q.name) := by
  unfold ContextFacts.source ContextFacts.trigger Text.lookup
  cases hinputs : facts.inputs.find? (Text.sameName ·.name q.name) with
  | some v =>
    obtain ⟨hname, before, after, hsplit, hfirst⟩ := first_of_find hinputs
    exact .input hrole hsplit hname hfirst
  | none =>
    cases hmetadata : facts.triggerMetadata.find? (Text.sameName ·.1 q.name) with
    | some e =>
      obtain ⟨hname, before, after, hsplit, hfirst⟩ := first_of_find hmetadata
      exact .metadata hrole (find_eq_none.1 hinputs) hsplit hname hfirst
    | none => exact .absent hrole (find_eq_none.1 hinputs) (find_eq_none.1 hmetadata)

theorem source_of_sourceOf : Source facts q (sourceOf facts q) := by
  unfold sourceOf
  cases hrole : q.role with
  | input => exact source_of_named (.inl hrole)
  | trigger => exact source_of_named (.inr hrole)
  | output => exact .sourceless (.inl hrole)
  | context => exact .sourceless (.inr hrole)

/-- A parameter has one source. -/
theorem Source.eq {source : Option WireValue} (h : Source facts q source) : sourceOf facts q = source := by
  have hnamed : q.role = .input ∨ q.role = .trigger → sourceOf facts q = facts.source q.name := by
    rintro (hrole | hrole) <;> rw [sourceOf, hrole]
  cases h with
  | input hrole hinputs hname hfirst =>
    rw [hnamed hrole, ContextFacts.source, hinputs, find_of_first hname hfirst]
  | metadata hrole hinputs hmetadata hname hfirst =>
    rw [hnamed hrole, ContextFacts.source, find_eq_none.2 hinputs, ContextFacts.trigger, Text.lookup, hmetadata,
      find_of_first hname hfirst]
    rfl
  | absent hrole hinputs hmetadata =>
    rw [hnamed hrole, ContextFacts.source, find_eq_none.2 hinputs, ContextFacts.trigger, Text.lookup,
      find_eq_none.2 hmetadata]
    rfl
  | sourceless hrole => rcases hrole with hrole | hrole <;> rw [sourceOf, hrole]

/-! ## Binding -/

/-- How a parameter is bound: to a value of the invocation's own, or to the answer of the converters to its
source. -/
inductive Binds (c : ContextId) (facts : ContextFacts) (q : Parameter) :
    List Stage → Except Panic (Except ConversionError Datum) → Prop
  | own {d} (h : OwnValue c facts q d) : Binds c facts q [] (.ok (.ok d))
  | converted {source answer} (hown : ∀ d, ¬ OwnValue c facts q d) (hsource : Source facts q source) :
      Binds c facts q [.converts ⟨q, source, c, facts.token⟩ answer] (answer.map (·.map (·.value)))

/-- Parameters that are all bound, in order, under their names. -/
inductive AllBound (c : ContextId) (facts : ContextFacts) :
    List Parameter → List Stage → List (String × Datum) → Prop
  | nil : AllBound c facts [] [] []
  | cons {q qs ss₁ ss₂ d bound} (h : Binds c facts q ss₁ (.ok (.ok d))) (hrest : AllBound c facts qs ss₂ bound) :
      AllBound c facts (q :: qs) (ss₁ ++ ss₂) ((q.name, d) :: bound)

/-- Parameters are bound in order up to one whose binding comes to the answer. Those after it are left alone. -/
inductive BindsUpTo (c : ContextId) (facts : ContextFacts) (qs : List Parameter) (ss : List Stage)
    (answer : Except Panic (Except ConversionError Datum)) : Prop
  | intro {before q after ss₁ ss₂ bound} (hqs : qs = before ++ q :: after) (hss : ss = ss₁ ++ ss₂)
      (hbefore : AllBound c facts before ss₁ bound) (h : Binds c facts q ss₂ answer)

/-- How parameters are bound in order, up to the first that cannot be. -/
inductive BindsAll (c : ContextId) (facts : ContextFacts) (qs : List Parameter) (ss : List Stage) :
    Except Panic (Except ConversionError (List (String × Datum))) → Prop
  | bound {bound} (h : AllBound c facts qs ss bound) : BindsAll c facts qs ss (.ok (.ok bound))
  | refused {e} (h : BindsUpTo c facts qs ss (.ok (.error e))) : BindsAll c facts qs ss (.ok (.error e))
  | panicked {x} (h : BindsUpTo c facts qs ss (.error x)) : BindsAll c facts qs ss (.error x)

theorem bindParameter_tells (q : Parameter) :
    Tells p c facts (bindParameter p.converters c facts q) (Binds c facts q) := by
  unfold bindParameter
  cases hown : own? c facts q with
  | some d =>
    refine (Tells.done _).congr fun ss r => ⟨?_, ?_⟩
    · rintro ⟨rfl, rfl⟩
      exact .own (ownValue_of_own hown)
    · rintro (h | ⟨hnot, -⟩)
      · obtain rfl := Option.some.inj (hown.symm.trans (own_of_ownValue h))
        exact ⟨rfl, rfl⟩
      · exact absurd (ownValue_of_own hown) (hnot d)
  | none =>
    have hnot : ∀ d, ¬ OwnValue c facts q d := fun d h => nomatch hown.symm.trans (own_of_ownValue h)
    have hstage : Tells p c facts (p.converters.convert ⟨q, sourceOf facts q, c, facts.token⟩)
        (.single (.converts ⟨q, sourceOf facts q, c, facts.token⟩)) := .stage _ fun _ _ _ _ => Iff.rfl
    refine (hstage.bind fun r _ _ => Tells.done _).congr fun ss r => ?_
    rw [Kind.andThen_single]
    have hbinds : ∀ answer, Binds c facts q [.converts ⟨q, sourceOf facts q, c, facts.token⟩ answer]
        (answer.map (·.map (·.value))) := fun _ => .converted hnot source_of_sourceOf
    constructor
    · rintro (⟨a, _, rfl, rfl, rfl⟩ | ⟨x, rfl, rfl⟩)
      · exact hbinds (.ok a)
      · exact hbinds (.error x)
    · rintro (h | @⟨source, answer, -, hsource⟩)
      · exact absurd h (hnot _)
      · rw [← hsource.eq]
        cases answer with
        | ok a => exact .inl ⟨a, [], rfl, rfl, rfl⟩
        | error x => exact .inr ⟨x, rfl, rfl⟩

variable {qs : List Parameter} {ss ss₁ ss₂ stages : List Stage} {bound : List (String × Datum)} {d : Datum}
  {answer : Except Panic (Except ConversionError Datum)}
  {outcome : Except Panic (Except ConversionError (List (String × Datum)))}

theorem BindsUpTo.first (h : Binds c facts q ss answer) : BindsUpTo c facts (q :: qs) ss answer :=
  .intro rfl rfl .nil h

theorem BindsUpTo.cons (h : Binds c facts q ss₁ (.ok (.ok d))) (hrest : BindsUpTo c facts qs ss₂ answer) :
    BindsUpTo c facts (q :: qs) (ss₁ ++ ss₂) answer := by
  obtain ⟨hqs, hss, hbefore, hlast⟩ := hrest
  exact .intro (congrArg _ hqs) (by rw [hss, List.append_assoc]) (.cons h hbefore) hlast

/-- It is the first parameter, or that one is bound and it is one of the others. -/
theorem BindsUpTo.cons_inv (h : BindsUpTo c facts (q :: qs) ss answer) : Binds c facts q ss answer ∨
    ∃ d ss₁ ss₂, ss = ss₁ ++ ss₂ ∧ Binds c facts q ss₁ (.ok (.ok d)) ∧ BindsUpTo c facts qs ss₂ answer := by
  obtain @⟨before, _, _, _, _, _, hqs, rfl, hbefore, h⟩ := h
  cases before with
  | nil =>
    obtain ⟨rfl, rfl⟩ := List.cons.inj hqs
    cases hbefore
    exact .inl h
  | cons _ before =>
    obtain ⟨rfl, rfl⟩ := List.cons.inj hqs
    cases hbefore with
    | cons hfirst hbefore => exact .inr ⟨_, _, _, List.append_assoc .., hfirst, .intro rfl rfl hbefore h⟩

/-- One more parameter that is bound before others. -/
theorem BindsAll.cons (h : Binds c facts q ss₁ (.ok (.ok d))) (hrest : BindsAll c facts qs ss₂ outcome) :
    BindsAll c facts (q :: qs) (ss₁ ++ ss₂) (outcome.map (·.map ((q.name, d) :: ·))) := by
  cases hrest with
  | bound hrest => exact .bound (.cons h hrest)
  | refused hrest => exact .refused (.cons h hrest)
  | panicked hrest => exact .panicked (.cons h hrest)

/-- Parameters are bound one after another: the first one, and then the others if that is bound. -/
theorem bindsAll_cons : Kind.andThen (Binds c facts q) (fun
      | .error e => .silent (.error e)
      | .ok d => Kind.andThen (BindsAll c facts qs) fun rest => .silent (rest.map ((q.name, d) :: ·)))
      ss outcome ↔ BindsAll c facts (q :: qs) ss outcome := by
  constructor
  · rintro (⟨a, ss₁, ss₂, rfl, h, hrest⟩ | ⟨x, h, rfl⟩)
    · cases a with
      | error e =>
        obtain ⟨rfl, rfl⟩ := hrest
        rw [List.append_nil]
        exact .refused (.first h)
      | ok d =>
        rcases hrest with ⟨rest, ss₂, _, rfl, hrest, rfl, rfl⟩ | ⟨x, hrest, rfl⟩
        · rw [List.append_nil]
          exact .cons h hrest
        · exact .cons h hrest
    · exact .panicked (.first h)
  · intro h
    cases h with
    | bound h =>
      cases h with
      | cons h hrest =>
        exact .inl ⟨_, _, _, rfl, h, .inl ⟨_, _, [], (List.append_nil _).symm, .bound hrest, rfl, rfl⟩⟩
    | refused h =>
      rcases h.cons_inv with h | ⟨d, ss₁, ss₂, rfl, h, hrest⟩
      · exact .inl ⟨_, ss, [], (List.append_nil _).symm, h, rfl, rfl⟩
      · exact .inl ⟨_, ss₁, ss₂, rfl, h, .inl ⟨_, ss₂, [], (List.append_nil _).symm, .refused hrest, rfl, rfl⟩⟩
    | panicked h =>
      rcases h.cons_inv with h | ⟨d, ss₁, ss₂, rfl, h, hrest⟩
      · exact .inr ⟨_, h, rfl⟩
      · exact .inl ⟨_, ss₁, ss₂, rfl, h, .inr ⟨_, .panicked hrest, rfl⟩⟩

theorem bindAll_tells :
    ∀ qs : List Parameter, Tells p c facts (bindAll p.converters c facts qs) (BindsAll c facts qs)
  | [] => by
    refine (Tells.done _).congr fun ss r => ⟨?_, ?_⟩
    · rintro ⟨rfl, rfl⟩
      exact .bound .nil
    · rintro (⟨⟨⟩⟩ | ⟨hqs, -⟩ | ⟨hqs, -⟩)
      · exact ⟨rfl, rfl⟩
      · simp at hqs
      · simp at hqs
  | q :: qs => by
    refine ((bindParameter_tells q).bind fun a _ _ => ?_).congr fun _ _ => bindsAll_cons
    cases a with
    | error e => exact .done _
    | ok d => exact (bindAll_tells qs).bind fun rest _ _ => .done _

/-! ## Calling -/

/-- What becomes of the answer of a function: a result is stored in the context. -/
inductive Ends : Except Panic (Except FunctionError HandlerResult) → List Stage → Except Panic Passage → Prop
  | panicked {x} : Ends (.error x) [] (.error x)
  | failed {e} : Ends (.ok (.error e)) [] (.ok (.error (.ofFunction e)))
  | returned {result stored} :
      Ends (.ok (.ok result)) [.stores result stored] (.ok (stored.mapError .context))

/-- A function is called with what its parameters were bound to, in their order and none of it taken yet, unless
the token is signalled. -/
inductive Calls (facts : ContextFacts) (bound : List (String × Datum)) : List Stage → Except Panic Passage → Prop
  | cancelled : Calls facts bound [.looks facts.token true] (.ok (.error .cancelled))
  | called {arguments answer ss r} (hnames : arguments.names = bound.map (·.1))
      (hslots : arguments.slots = bound.map fun b => some b.2) (hends : Ends answer ss r) : Calls facts bound
      (.looks facts.token false :: .calls facts.definition.handler arguments answer :: ss) r

/-- The stages by which a function comes to be called, or not, and what comes of it. -/
inductive Executes (c : ContextId) (facts : ContextFacts) : List Stage → Except Panic Passage → Prop
  | bound {ss bound ss' r} (hbound : AllBound c facts facts.definition.parameters ss bound)
      (hcalls : Calls facts bound ss' r) : Executes c facts (.reads facts :: (ss ++ ss')) r
  | unbound {ss e} (h : BindsUpTo c facts facts.definition.parameters ss (.ok (.error e))) :
      Executes c facts (.reads facts :: ss) (.ok (.error (.conversion e)))
  | panicked {ss x} (h : BindsUpTo c facts facts.definition.parameters ss (.error x)) :
      Executes c facts (.reads facts :: ss) (.error x)

variable {r : Except Panic Passage}

theorem setResult_ends {result : HandlerResult} {w w' : World} {es : List Event}
    {r : Except Panic (Except ContextError Unit)} (run : Job.Run (Job.setResult c result) w es r w') :
    ∃ stored, r = .ok stored := by
  obtain ⟨es₁, es₂, checked, v, rfl, -, run⟩ := Job.Run.op_inv run
  cases checked with
  | error e => exact ⟨_, run.2.2⟩
  | ok =>
    obtain ⟨es₃, es₄, a, u, rfl, -, run⟩ := Job.Run.op_inv run
    exact ⟨_, run.2.2⟩

theorem ends_ok {a : Except FunctionError HandlerResult} : (match a with
      | .error e => Kind.silent (.error (.ofFunction e))
      | .ok result => Kind.andThen (.answered (.stores result)) fun stored => .silent (stored.mapError .context) :
        Kind Passage) ss r ↔ Ends (.ok a) ss r := by
  cases a with
  | error e =>
    constructor
    · rintro ⟨rfl, rfl⟩
      exact .failed
    · rintro ⟨⟩
      exact ⟨rfl, rfl⟩
  | ok result =>
    dsimp only
    rw [Kind.andThen_answered]
    constructor
    · rintro ⟨stored, _, rfl, rfl, rfl⟩
      exact .returned
    · rintro ⟨⟩
      exact ⟨_, [], rfl, rfl, rfl⟩

theorem eq_ofList {arguments : Arguments} (hnames : arguments.names = bound.map (·.1))
    (hslots : arguments.slots = bound.map fun b => some b.2) : arguments = .ofList bound := by
  obtain ⟨names, slots⟩ := arguments
  obtain rfl : names = _ := hnames
  obtain rfl : slots = _ := hslots
  rfl

theorem calls_iff : Kind.andThen (.answered (.looks facts.token)) (fun signalled =>
      bif signalled then .silent (.error .cancelled)
      else Kind.andThen (.single (.calls facts.definition.handler (.ofList bound))) fun a => Ends (.ok a)) ss r ↔
      Calls facts bound ss r := by
  rw [Kind.andThen_answered]
  constructor
  · rintro ⟨signalled, ss', rfl, h⟩
    cases signalled with
    | true =>
      obtain ⟨rfl, rfl⟩ := h
      exact .cancelled
    | false =>
      rcases Kind.andThen_single.1 h with ⟨a, ss'', rfl, hends⟩ | ⟨x, rfl, rfl⟩
      · exact .called rfl rfl hends
      · exact .called rfl rfl .panicked
  · rintro (_ | @⟨arguments, answer, ss', _, hnames, hslots, hends⟩)
    · exact ⟨true, [], rfl, rfl, rfl⟩
    · obtain rfl := eq_ofList hnames hslots
      refine ⟨false, _, rfl, Kind.andThen_single.2 ?_⟩
      cases answer with
      | ok a => exact .inl ⟨a, ss', rfl, hends⟩
      | error x =>
        cases hends
        exact .inr ⟨x, rfl, rfl⟩

theorem executes_iff : (∃ ss', ss = .reads facts :: ss' ∧
      Kind.andThen (BindsAll c facts facts.definition.parameters) (fun
        | .error e => .silent (.error (.conversion e))
        | .ok bound => Calls facts bound) ss' r) ↔ Executes c facts ss r := by
  constructor
  · rintro ⟨_, rfl, ⟨a, ss₁, ss₂, rfl, h, hrest⟩ | ⟨x, h, rfl⟩⟩
    · cases h with
      | bound h => exact .bound h hrest
      | refused h =>
        obtain ⟨rfl, rfl⟩ := hrest
        rw [List.append_nil]
        exact .unbound h
    · cases h with
      | panicked h => exact .panicked h
  · intro h
    cases h with
    | bound hbound hcalls => exact ⟨_, rfl, .inl ⟨_, _, _, rfl, .bound hbound, hcalls⟩⟩
    | unbound h => exact ⟨_, rfl, .inl ⟨_, _, [], (List.append_nil _).symm, .refused h, rfl, rfl⟩⟩
    | panicked h => exact ⟨_, rfl, .inr ⟨_, .panicked h, rfl⟩⟩

theorem execute_tells : Tells p c facts (p.execute c) (Executes c facts) := by
  refine (Tells.reads ((bindAll_tells _).bind fun a _ _ => ?_)).congr fun _ _ => executes_iff
  cases a with
  | error e => exact .done _
  | ok bound =>
    have hlooks : Tells p c facts (Job.op (.isSignalled facts.token)) (.answered (.looks facts.token)) :=
      Tells.op (.isSignalled facts.token) (.looks facts.token) fun _ _ _ _ => Iff.rfl
    refine (hlooks.bind fun signalled _ _ => ?_).congr fun _ _ => calls_iff
    cases signalled with
    | true => exact .done _
    | false =>
      refine (Tells.stage (.calls _ _) fun _ _ _ _ => Iff.rfl).bind fun a _ _ => ?_
      refine Tells.congr ?_ fun _ _ => ends_ok
      cases a with
      | error e => exact .done _
      | ok result =>
        exact (Tells.answered (.stores result) (fun _ _ _ _ _ => setResult_ends) fun _ _ _ _ => Iff.rfl).bind
          fun stored _ _ => .done _

/-! ## When the function is called -/

theorem Binds.conversions (h : Binds c facts q ss answer) : ∀ s ∈ ss, s.isConversion := by
  cases h with
  | own => exact fun s hs => absurd hs List.not_mem_nil
  | converted => exact fun s hs => List.mem_singleton.1 hs ▸ rfl

/-- Nothing happens while parameters are bound but that converters are asked. -/
theorem AllBound.conversions (h : AllBound c facts qs ss bound) : ∀ s ∈ ss, s.isConversion := by
  induction h with
  | nil => exact fun s hs => absurd hs List.not_mem_nil
  | cons h _ ih => exact fun s hs => (List.mem_append.1 hs).elim (h.conversions s) (ih s)

theorem BindsUpTo.conversions (h : BindsUpTo c facts qs ss answer) : ∀ s ∈ ss, s.isConversion := by
  obtain ⟨-, rfl, hbefore, h⟩ := h
  exact fun s hs => (List.mem_append.1 hs).elim (hbefore.conversions s) (h.conversions s)

/-- There is one value for each parameter, under its name. -/
theorem AllBound.names (h : AllBound c facts qs ss bound) : bound.map (·.1) = qs.map (·.name) := by
  induction h with
  | nil => rfl
  | cons _ _ ih => exact congrArg (_ :: ·) ih

/-- How a function came to be called, or not. -/
structure Execution (c : ContextId) (facts : ContextFacts) (stages : List Stage) (r : Except Panic Passage) :
    Prop where
  executes : Executes c facts stages r
  /-- It was called just when every parameter was bound and the token was not found signalled after that. -/
  called : (∃ s ∈ stages, s.isCall) ↔ ∃ ss bound rest, AllBound c facts facts.definition.parameters ss bound ∧
    stages = .reads facts :: (ss ++ .looks facts.token false :: rest)
  /-- It was called no more than once, with what the parameters were bound to, in their order. -/
  once : ∀ before handler arguments answer after, stages = before ++ .calls handler arguments answer :: after →
    (∀ s ∈ before ++ after, s.isCall = false) ∧ handler = facts.definition.handler ∧ Ends answer after r ∧
    ∃ ss bound, AllBound c facts facts.definition.parameters ss bound ∧
      arguments.names = bound.map (·.1) ∧ arguments.slots = bound.map (fun b => some b.2) ∧
      bound.map (·.1) = facts.definition.parameters.map (·.name) ∧
      before = .reads facts :: (ss ++ [.looks facts.token false])
  /-- If some parameter was not bound, the error is that of the first one, and nothing came after it. -/
  refused : ∀ e, r = .ok (.error (.conversion e)) ↔ ∃ ss, stages = .reads facts :: ss ∧
    BindsUpTo c facts facts.definition.parameters ss (.ok (.error e))

/-- How a parameter is bound, and with which answer, is seen from the stages. -/
theorem Binds.unique {answer' : Except Panic (Except ConversionError Datum)} {x y : List Stage}
    (h : Binds c facts q ss₁ answer) (h' : Binds c facts q ss₂ answer') (hss : ss₁ ++ x = ss₂ ++ y) :
    answer = answer' ∧ x = y := by
  cases h with
  | own hown =>
    cases h' with
    | own hown' =>
      obtain rfl := Option.some.inj ((own_of_ownValue hown).symm.trans (own_of_ownValue hown'))
      exact ⟨rfl, hss⟩
    | converted hnot _ => exact absurd hown (hnot _)
  | converted hnot _ =>
    cases h' with
    | own hown => exact absurd hown (hnot _)
    | converted _ _ =>
      obtain ⟨hstage, hrest⟩ := List.cons.inj hss
      cases hstage
      exact ⟨rfl, hrest⟩

/-- The first parameter that is not bound is seen from the stages. -/
theorem BindsUpTo.unique {answer' : Except Panic (Except ConversionError Datum)}
    (h : BindsUpTo c facts qs ss answer) (h' : BindsUpTo c facts qs ss answer')
    (hanswer : ∀ d, answer ≠ .ok (.ok d)) (hanswer' : ∀ d, answer' ≠ .ok (.ok d)) : answer = answer' := by
  induction qs generalizing ss with
  | nil =>
    obtain ⟨hqs, -⟩ := h
    simp at hqs
  | cons q qs ih =>
    rcases h.cons_inv with h | ⟨d, ss₁, ss₂, rfl, h, hrest⟩
    · rcases h'.cons_inv with h' | ⟨d, ss₁, ss₂, rfl, h', -⟩
      · exact (h.unique (x := []) h' rfl).1
      · exact absurd (h.unique (x := []) h' (List.append_nil _)).1 (hanswer d)
    · rcases h'.cons_inv with h' | ⟨d', ss₁', ss₂', hss, h', hrest'⟩
      · exact absurd (h'.unique (x := []) h (List.append_nil _)).1 (hanswer' d)
      · obtain ⟨-, rfl⟩ := h.unique h' hss
        exact ih hrest hrest'

theorem isCall_of_isConversion {s : Stage} (h : s.isConversion) : s.isCall = false := by
  cases s with
  | converts => rfl
  | _ => cases h

theorem Ends.not_called {answer : Except Panic (Except FunctionError HandlerResult)} (h : Ends answer ss r) :
    ∀ s ∈ ss, s.isCall = false := by
  cases h with
  | returned => exact fun s hs => List.mem_singleton.1 hs ▸ rfl
  | _ => exact fun s hs => absurd hs List.not_mem_nil

/-- What a function ends with is not for want of an argument. -/
theorem Ends.not_conversion {answer : Except Panic (Except FunctionError HandlerResult)} (h : Ends answer ss r)
    (e : ConversionError) : r ≠ .ok (.error (.conversion e)) := by
  cases h with
  | panicked => nofun
  | failed =>
    unfold InvocationError.ofFunction
    split <;> simp
  | @returned _ stored => cases stored <;> simp [Except.mapError]

/-- Nothing is called before the token has been looked at. -/
theorem not_called_before {signalled : Bool} (h : ∀ s ∈ ss, s.isConversion) :
    ∀ s ∈ Stage.reads facts :: (ss ++ [.looks facts.token signalled]), s.isCall = false := by
  intro s hs
  rw [List.mem_cons, List.mem_append, List.mem_singleton] at hs
  rcases hs with rfl | hs | rfl
  · rfl
  · exact isCall_of_isConversion (h s hs)
  · rfl

/-- The function was called after all parameters were bound, or it was not and the token was not found
unsignalled. -/
theorem Executes.called_or_not (h : Executes c facts stages r) :
    (∃ ss bound arguments answer ss', AllBound c facts facts.definition.parameters ss bound ∧
      arguments.names = bound.map (·.1) ∧ arguments.slots = bound.map (fun b => some b.2) ∧ Ends answer ss' r ∧
      stages = .reads facts :: (ss ++ .looks facts.token false ::
        .calls facts.definition.handler arguments answer :: ss')) ∨
    (∀ s ∈ stages, s.isCall = false) ∧ .looks facts.token false ∉ stages := by
  have hconversions : ∀ {ss : List Stage}, (∀ s ∈ ss, s.isConversion) →
      (∀ s ∈ Stage.reads facts :: ss, s.isCall = false) ∧ .looks facts.token false ∉ Stage.reads facts :: ss := by
    refine fun h => ⟨fun s hs => ?_, fun hlook => ?_⟩
    · rcases List.mem_cons.1 hs with rfl | hs
      · rfl
      · exact isCall_of_isConversion (h s hs)
    · exact nomatch h _ ((List.mem_cons.1 hlook).resolve_left nofun)
  cases h with
  | bound hbound hcalls =>
    cases hcalls with
    | called hnames hslots hends => exact .inl ⟨_, _, _, _, _, hbound, hnames, hslots, hends, rfl⟩
    | cancelled =>
      refine .inr ⟨not_called_before hbound.conversions, fun hlook => ?_⟩
      rw [List.mem_cons, List.mem_append, List.mem_singleton] at hlook
      rcases hlook with hlook | hlook | hlook
      · cases hlook
      · exact nomatch hbound.conversions _ hlook
      · cases hlook
  | unbound h => exact .inr (hconversions h.conversions)
  | panicked h => exact .inr (hconversions h.conversions)

theorem Executes.execution (h : Executes c facts stages r) : Execution c facts stages r := by
  refine ⟨h, ⟨?_, ?_⟩, ?_, ?_⟩
  · rintro ⟨s, hs, hcall⟩
    rcases h.called_or_not with ⟨ss, bound, arguments, answer, ss', hbound, -, -, -, rfl⟩ | ⟨hnone, -⟩
    · exact ⟨ss, bound, _, hbound, rfl⟩
    · exact absurd hcall (Bool.eq_false_iff.1 (hnone s hs))
  · rintro ⟨ss, bound, rest, -, hstages⟩
    rcases h.called_or_not with ⟨ss, bound, arguments, answer, ss', -, -, -, -, rfl⟩ | ⟨-, hlook⟩
    · exact ⟨.calls facts.definition.handler arguments answer, by simp, rfl⟩
    · refine absurd ?_ hlook
      rw [hstages]
      simp
  · intro before handler arguments answer after hstages
    rcases h.called_or_not with ⟨ss, bound, arguments', answer', ss', hbound, hnames, hslots, hends, heq⟩ | ⟨hnone, -⟩
    · -- no other stage is a call, so there is one way to part them at a call
      have hbefore : ∀ s ∈ Stage.reads facts :: (ss ++ [.looks facts.token false]), s.isCall = false :=
        not_called_before hbound.conversions
      have hcall : ∀ {l : List Stage} {s : Stage}, (∀ s ∈ l, s.isCall = false) → s.isCall = true → s ∉ l :=
        fun hl hs hmem => Bool.eq_false_iff.1 (hl _ hmem) hs
      have hparts : (Stage.reads facts :: (ss ++ [.looks facts.token false])) ++
          .calls facts.definition.handler arguments' answer' :: ss' =
            before ++ .calls handler arguments answer :: after := by
        rw [← hstages, heq]
        simp
      obtain ⟨rfl, hcalls, rfl⟩ :=
        (List.append_cons_inj_of_notMem (hcall hbefore rfl) (hcall hends.not_called rfl)).1 hparts
      obtain ⟨rfl, rfl, rfl⟩ : _ ∧ _ ∧ _ := by simpa using hcalls
      refine ⟨fun s hs => ?_, rfl, hends, ss, bound, hbound, hnames, hslots, hbound.names, rfl⟩
      exact (List.mem_append.1 hs).elim (hbefore s) (hends.not_called s)
    · have hcall := hnone (.calls handler arguments answer) (by rw [hstages]; simp)
      cases hcall
  · intro e
    constructor
    · rintro rfl
      cases h with
      | bound _ hcalls =>
        cases hcalls with
        | called _ _ hends => exact absurd rfl (hends.not_conversion e)
      | unbound h => exact ⟨_, rfl, h⟩
    · rintro ⟨ss, rfl, h'⟩
      cases h with
      | bound hbound hcalls =>
        cases hcalls with
        | cancelled => exact nomatch h'.conversions (.looks facts.token true) (by simp)
        | called => exact nomatch h'.conversions (.looks facts.token false) (by simp)
      | unbound h =>
        obtain ⟨⟩ := h.unique h' nofun nofun
        rfl
      | panicked h => cases h.unique h' nofun nofun

/-- A function is called just when every parameter is bound and the token is not signalled by then; it is called
once, with the values of the parameters in their order. A parameter is bound to the invocation's own context or
token or to what the converters make of its source; the first that cannot be bound is the last that is looked at,
and its error is that of the invocation. -/
theorem execute_calls (p : Pipeline) {c : ContextId} {w : World} (hc : c < w.contexts.length) :
    (∃ es r w', Job.Run (p.execute c) w es r w') ∧
    ∀ es r w', Job.Run (p.execute c) w es r w' ↔
      ∃ stages, Goes p c stages w es w' ∧ Execution c (w.context c).facts stages r := by
  constructor
  · obtain ⟨es, -, run⟩ := Job.run_alone (p.execute c) w
    exact ⟨es, _, _, run⟩
  · intro es r w'
    rw [execute_tells w es r w' hc rfl]
    exact exists_congr fun stages => and_congr_right fun _ => ⟨fun h => h.execution, fun h => h.executes⟩

/-! A function with a parameter for the context and one for an input that is spelled in another case. -/

def greeting : ContextFacts where
  invocationId := "7"
  definition :=
    { id := "7", name := "greet", entryPoint := "greet", handler := 0,
      parameters := [⟨"context", ⟨"FunctionContext", .context⟩, .context⟩, ⟨"name", .text, .input⟩] }
  inputs := [⟨"NAME", .text "ada"⟩]
  token := 0

/-- The function takes its second argument as a text and returns it. -/
def greeter : Pipeline where
  handlers := fun _ arguments =>
    match (arguments.take 1 TypeName.text).1 with
    | .ok (.text name) => .done (.ok { returned := some (.text ("hello, " ++ name)) })
    | .ok _ => .done (.ok {})
    | .error e => .done (.error e)

/-- The context is the one that a function is called in. -/
def greetingWorld : World where
  contexts := [{ facts := greeting, state := .executing }]

/-- The conversion of the second parameter is that of the first input. -/
theorem greeting_bound : bindAll .standard 0 greeting greeting.definition.parameters =
    .done (.ok [("context", .context 0), ("name", .text "ada")]) := by
  have hupper : Text.fold "NAME" = "name" := Text.fold_eq_iff.2 (by decide)
  have hlower : Text.fold "name" = "name" := Text.fold_eq_iff.2 (by decide)
  have hsame : Text.sameName "NAME" "name" = true := beq_iff_eq.2 (hupper.trans hlower.symm)
  have hsource : Source greeting ⟨"name", .text, .input⟩ (some (.text "ada")) :=
    @Source.input _ _ [] ⟨"NAME", .text "ada"⟩ [] (.inl rfl) rfl hsame nofun
  have hname : bindParameter .standard 0 greeting ⟨"name", .text, .input⟩ = .done (.ok (.text "ada")) := by
    show (ConverterChain.standard.convert _ >>= _ : Job _) = _
    rw [hsource.eq, ConverterChain.convert_identity (d := .text "ada") rfl]
    rfl
  simp only [greeting, bindAll] at hname ⊢
  rw [hname]
  rfl

/-- Whatever stages the parameters are bound in, they are bound to the context and to the first input. -/
theorem greeting_arguments {w w' : World} {es : List Event} (hc : 0 < w.contexts.length)
    (hfacts : (w.context 0).facts = greeting) (hgoes : Goes greeter 0 ss w es w')
    (hbound : AllBound 0 greeting greeting.definition.parameters ss bound) :
    bound = [("context", .context 0), ("name", .text "ada")] := by
  have run : Job.Run (bindAll .standard 0 greeting greeting.definition.parameters) w es (.ok (.ok bound)) w' :=
    (bindAll_tells _ w es _ w' hc hfacts).2 ⟨ss, hgoes, .bound hbound⟩
  rw [greeting_bound] at run
  cases run.2.2
  rfl

/-- The function gets the context and the text, and what it makes of the text is its result. -/
theorem execute_calls_greeter : ∃ es w' stages,
    Goes greeter 0 stages greetingWorld es w' ∧ Execution 0 greeting stages (.ok (.ok ())) ∧
      (w'.context 0).result = some { returned := some (.text "hello, ada") } ∧
      ∃ arguments answer, .calls 0 arguments answer ∈ stages ∧ arguments.names = ["context", "name"] ∧
        arguments.slots = [some (.context 0), some (.text "ada")] := by
  obtain ⟨es, -, run⟩ := Job.run_alone (greeter.execute 0) greetingWorld
  have hresult : (Routine.run Effect.alone (greeter.execute 0) greetingWorld).1 = .ok (.ok ()) ∧
      ((Routine.run Effect.alone (greeter.execute 0) greetingWorld).2.context 0).result =
        some { returned := some (.text "hello, ada") } := by
    have hreads : Routine.run Effect.alone (greeter.execute 0) greetingWorld = _ := Job.run_op _ _
    rw [hreads, show World.perform (.onContext 0 .facts) greetingWorld = (greeting, greetingWorld) from rfl]
    dsimp only [Routine.bind]
    rw [show greeter.converters = .standard from rfl, greeting_bound]
    exact ⟨rfl, rfl⟩
  rw [hresult.1] at run
  obtain ⟨stages, hgoes, h⟩ := ((execute_calls greeter Nat.one_pos).2 _ _ _).1 run
  refine ⟨es, _, stages, hgoes, h, hresult.2, ?_⟩
  cases h.executes with
  | bound hbound hcalls =>
    obtain ⟨es₁, v, es₂, -, hread, hgoes⟩ := hgoes
    obtain ⟨es₃, u, es₄, -, hbinds, -⟩ := hgoes.of_append
    obtain ⟨hc, hfacts⟩ := hread.leads.facts Nat.one_pos
    obtain rfl := greeting_arguments hc hfacts hbinds hbound
    cases hcalls with
    | called hnames hslots =>
      exact ⟨_, _, .tail _ (List.mem_append_right _ (.tail _ (.head _))), hnames, hslots⟩

end FunctionWorker.Pipeline
