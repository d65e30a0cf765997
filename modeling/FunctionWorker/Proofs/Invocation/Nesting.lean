/-
How middleware is wrapped around a function. The steps are entered in the order of their registration up to one
that stops or to the function, whose result is routed to outputs behind all of them; then the steps that were
entered have the last word, the innermost first.
-/
import FunctionWorker.Proofs.Invocation.Binding
import FunctionWorker.Proofs.Invocation.Routing

namespace FunctionWorker.Pipeline

/-! ## Middleware around a function -/

/-- The function with the routing of its result. -/
inductive Core (c : ContextId) (facts : ContextFacts) : List Stage → Except Panic Passage → Prop
  | failed {ss r} (h : Executes c facts ss r) (hr : r ≠ .ok (.ok ())) : Core c facts ss r
  | routed {ss taken ss' r} (h : Executes c facts ss (.ok (.ok ()))) (hroutes : RoutesResult facts taken ss' r) :
      Core c facts (ss ++ .takes taken :: ss') r

/-- Steps that are wrapped around a core, so many from a place on. A step stops, or it has the last word on what
came of the steps inside it. -/
inductive Nested (core : List Stage → Except Panic Passage → Prop) :
    Nat → Nat → List Stage → Except Panic Passage → Prop
  | core {i ss r} (h : core ss r) : Nested core i 0 ss r
  | stopped {i n result} : Nested core i (n + 1) [.enters i (.ok (.stop result))] (.ok result)
  | panicked {i n x} : Nested core i (n + 1) [.enters i (.error x)] (.error x)
  | proceeded {i n after ss came answer} (h : Nested core (i + 1) n ss (.ok came)) :
      Nested core i (n + 1) (.enters i (.ok (.proceed after)) :: (ss ++ [.leaves i after came answer])) answer
  | interrupted {i n after ss x} (h : Nested core (i + 1) n ss (.error x)) :
      Nested core i (n + 1) (.enters i (.ok (.proceed after)) :: ss) (.error x)

/-- What is inside all steps that proceed. -/
inductive Inmost (core : List Stage → Except Panic Passage → Prop) : List Stage → Prop
  | core {ss r} (h : core ss r) : Inmost core ss
  | stopped {i result} : Inmost core [.enters i (.ok (.stop result))]
  | panicked {i x} : Inmost core [.enters i (.error x)]

variable {p : Pipeline} {c : ContextId} {facts : ContextFacts} {stages ss ss₁ ss₂ : List Stage}
  {r : Except Panic Passage}

theorem core_iff : Kind.andThen (Executes c facts) (fun
      | .error e => .silent (.error e)
      | .ok () => fun ss r => ∃ taken ss', ss = .takes taken :: ss' ∧ RoutesResult facts taken ss' r) ss r ↔
      Core c facts ss r := by
  constructor
  · rintro (⟨x, ss₁, ss₂, rfl, h, hrest⟩ | ⟨x, h, rfl⟩)
    · cases x with
      | error e =>
        obtain ⟨rfl, rfl⟩ := hrest
        rw [List.append_nil]
        exact .failed h nofun
      | ok =>
        obtain ⟨taken, ss', rfl, hroutes⟩ := hrest
        exact .routed h hroutes
    · exact .failed h nofun
  · intro h
    cases h with
    | failed h hr =>
      cases r with
      | error x => exact .inr ⟨x, h, rfl⟩
      | ok x =>
        cases x with
        | error e => exact .inl ⟨_, ss, [], (List.append_nil _).symm, h, rfl, rfl⟩
        | ok => exact absurd rfl hr
    | routed h hroutes => exact .inl ⟨.ok (), _, _, rfl, h, _, _, rfl, hroutes⟩

theorem core_tells : Tells p c facts (p.core c) (Core c facts) := by
  refine (execute_tells.bind fun x _ _ => ?_).congr fun _ _ => core_iff
  cases x with
  | error e => exact .done _
  | ok => exact routeResult_tells

/-- A step decides before the steps inside it, and has the last word if it did not stop. -/
theorem nested_succ {core : Kind Passage} {i n : Nat} : Kind.andThen (.single (.enters i)) (fun
      | .stop result => .silent result
      | .proceed after => Kind.andThen (Nested core (i + 1) n) fun came => .single (.leaves i after came)) ss r ↔
      Nested core i (n + 1) ss r := by
  rw [Kind.andThen_single]
  constructor
  · rintro (⟨decision, ss', rfl, h⟩ | ⟨x, rfl, rfl⟩)
    · cases decision with
      | stop result =>
        obtain ⟨rfl, rfl⟩ := h
        exact .stopped
      | proceed after =>
        rcases h with ⟨came, ss', _, rfl, h, rfl⟩ | ⟨x, h, rfl⟩
        · exact .proceeded h
        · exact .interrupted h
    · exact .panicked
  · intro h
    cases h with
    | stopped => exact .inl ⟨_, [], rfl, rfl, rfl⟩
    | panicked => exact .inr ⟨_, rfl, rfl⟩
    | proceeded h => exact .inl ⟨.proceed _, _, rfl, .inl ⟨_, _, _, rfl, h, rfl⟩⟩
    | interrupted h => exact .inl ⟨.proceed _, _, rfl, .inr ⟨_, h, rfl⟩⟩

theorem runWith_tells {core : Job Passage} {R : Kind Passage} (hcore : Tells p c facts core R) :
    ∀ (rest : List Middleware) (i : Nat), p.middleware.drop i = rest →
      Tells p c facts (runWith core c rest) (Nested R i rest.length)
  | [], _, _ => hcore.congr fun ss r => ⟨.core, fun | .core h => h⟩
  | m :: rest, i, hdrop => by
    have hm : p.middleware[i]? = some m := by
      rw [← List.head?_drop, hdrop]
      rfl
    have hrest : p.middleware.drop (i + 1) = rest := by
      rw [← List.tail_drop, hdrop]
      rfl
    have hlength : p.middleware.length - i = rest.length + 1 := by
      rw [← List.length_drop, hdrop]
      rfl
    have henters : Tells p c facts (Code.job (m c (rest.length + 1))) (.single (.enters i)) := by
      refine Tells.stage _ fun w es r w' => ⟨fun run => ⟨m, hm, hlength ▸ run⟩, ?_⟩
      rintro ⟨m', hm', run⟩
      obtain rfl := Option.some.inj (hm.symm.trans hm')
      exact hlength ▸ run
    refine (henters.bind fun decision _ _ => ?_).congr fun _ _ => nested_succ
    cases decision with
    | stop result => exact .done _
    | proceed after =>
      refine (runWith_tells hcore rest (i + 1) hrest).bind fun came _ _ => ?_
      exact Tells.stage (.leaves i after came) fun _ _ _ _ => Iff.rfl

/-! ## Inner stages -/

theorem isInner_of_isConversion {s : Stage} (h : s.isConversion) : s.isInner := by
  cases s with
  | converts => rfl
  | _ => cases h

theorem Ends.inner {answer : Except Panic (Except FunctionError HandlerResult)} (h : Ends answer ss r) :
    ∀ s ∈ ss, s.isInner := by
  cases h with
  | returned => exact fun s hs => List.mem_singleton.1 hs ▸ rfl
  | _ => exact fun s hs => absurd hs List.not_mem_nil

theorem Executes.inner (h : Executes c facts ss r) : ∀ s ∈ ss, s.isInner := by
  have hconversions : ∀ {l : List Stage}, (∀ s ∈ l, s.isConversion) → ∀ s ∈ l, s.isInner :=
    fun h s hs => isInner_of_isConversion (h s hs)
  cases h with
  | bound hbound hcalls =>
    refine List.forall_mem_cons.2 ⟨rfl, List.forall_mem_append.2 ⟨hconversions hbound.conversions, ?_⟩⟩
    cases hcalls with
    | cancelled => exact fun s hs => List.mem_singleton.1 hs ▸ rfl
    | called _ _ hends => exact List.forall_mem_cons.2 ⟨rfl, List.forall_mem_cons.2 ⟨rfl, hends.inner⟩⟩
  | unbound h | panicked h => exact List.forall_mem_cons.2 ⟨rfl, hconversions h.conversions⟩

theorem Core.inner (h : Core c facts ss r) : ∀ s ∈ ss, s.isInner := by
  cases h with
  | failed h _ => exact h.inner
  | routed h hroutes =>
    exact List.forall_mem_append.2 ⟨h.inner, List.forall_mem_cons.2 ⟨rfl, fun s hs => (hroutes.quiet s hs).1⟩⟩

theorem countP_call_of_none (h : ∀ s ∈ ss, s.isCall = false) : ss.countP Stage.isCall = 0 :=
  List.countP_eq_zero.2 fun s hs => Bool.eq_false_iff.1 (h s hs)

theorem Executes.calls_le (h : Executes c facts ss r) : ss.countP Stage.isCall ≤ 1 := by
  rcases h.called_or_not with ⟨ss, bound, arguments, answer, ss', hbound, -, -, hends, rfl⟩ | ⟨hnone, -⟩
  · have hconversions : ss.countP Stage.isCall = 0 :=
      countP_call_of_none fun s hs => isCall_of_isConversion (hbound.conversions s hs)
    simp [List.countP_cons, Stage.isCall, hconversions, countP_call_of_none hends.not_called]
  · rw [countP_call_of_none hnone]
    exact Nat.zero_le 1

theorem Core.calls_le (h : Core c facts ss r) : ss.countP Stage.isCall ≤ 1 := by
  cases h with
  | failed h _ => exact h.calls_le
  | routed h hroutes =>
    have hnone := countP_call_of_none fun s hs => (hroutes.quiet s hs).2
    simpa [List.countP_cons, Stage.isCall, hnone] using h.calls_le

/-! ## What nesting comes to -/

theorem split_right {l m before after : List Stage} {s : Stage} (h : l ++ m = before ++ s :: after)
    (hs : s ∉ l) : ∃ rest, m = rest ++ s :: after := by
  obtain ⟨rest, -, hm⟩ | ⟨rest, rfl, hrest⟩ := List.append_eq_append_iff.1 h
  · exact ⟨rest, hm⟩
  · cases rest with
    | nil => exact ⟨[], hrest.symm⟩
    | cons t rest =>
      obtain rfl := (List.cons.inj hrest).1
      exact absurd (List.mem_append_right _ (List.mem_cons_self ..)) hs

theorem split_left {l m before after : List Stage} {s : Stage} (h : l ++ m = before ++ s :: after)
    (hs : s ∉ m) : ∃ rest, l = before ++ s :: rest ∧ after = rest ++ m := by
  obtain ⟨rest, -, rfl⟩ | ⟨rest, rfl, hrest⟩ := List.append_eq_append_iff.1 h
  · exact absurd (List.mem_append_right _ (List.mem_cons_self ..)) hs
  · cases rest with
    | nil =>
      obtain rfl : s :: after = m := hrest
      exact absurd (List.mem_cons_self ..) hs
    | cons t rest =>
      obtain ⟨rfl, hafter⟩ := List.cons.inj hrest
      exact ⟨rest, rfl, hafter⟩

section

variable {core : List Stage → Except Panic Passage → Prop} {i n : Nat}

/-- First steps proceed, then something happens inside them, and then they have the last word. -/
theorem Nested.parts (h : Nested core i n ss r) : ∃ enters inmost leaves, ss = enters ++ (inmost ++ leaves) ∧
    (∀ s ∈ enters, ∃ j after, s = .enters j (.ok (.proceed after))) ∧ Inmost core inmost ∧
    ∀ s ∈ leaves, s.isLeave := by
  have hnil : ∀ {P : Stage → Prop}, ∀ s ∈ ([] : List Stage), P s := fun s hs => absurd hs List.not_mem_nil
  induction h with
  | core h => exact ⟨[], _, [], (List.append_nil _).symm, hnil, .core h, hnil⟩
  | stopped => exact ⟨[], _, [], rfl, hnil, .stopped, hnil⟩
  | panicked => exact ⟨[], _, [], rfl, hnil, .panicked, hnil⟩
  | @proceeded i _ after _ came answer _ ih =>
    obtain ⟨enters, inmost, leaves, rfl, henters, hinmost, hleaves⟩ := ih
    refine ⟨.enters i (.ok (.proceed after)) :: enters, inmost, leaves ++ [.leaves i after came answer],
      by simp only [List.append_assoc, List.cons_append], List.forall_mem_cons.2 ⟨⟨_, _, rfl⟩, henters⟩, hinmost,
      List.forall_mem_append.2 ⟨hleaves, fun s hs => List.mem_singleton.1 hs ▸ rfl⟩⟩
  | interrupted _ ih =>
    obtain ⟨enters, inmost, leaves, rfl, henters, hinmost, hleaves⟩ := ih
    exact ⟨_ :: enters, inmost, leaves, rfl, List.forall_mem_cons.2 ⟨⟨_, _, rfl⟩, henters⟩, hinmost, hleaves⟩

theorem filterMap_of_inner {f : Stage → Option Nat} (hf : ∀ s : Stage, s.isInner → f s = none)
    (h : ∀ s ∈ ss, s.isInner) : ss.filterMap f = [] :=
  List.filterMap_eq_nil_iff.2 fun s hs => hf s (h s hs)

theorem entered_of_inner (s : Stage) (h : s.isInner) : s.entered? = none := by
  cases s <;> first | rfl | cases h

theorem left_of_inner (s : Stage) (h : s.isInner) : s.left? = none := by
  cases s <;> first | rfl | cases h

/-- Steps are entered in order, up to one of them. -/
theorem Nested.entered (h : Nested core i n ss r) (hcore : ∀ ss r, core ss r → ∀ s ∈ ss, s.isInner) :
    ∃ k ≤ n, ss.filterMap Stage.entered? = List.range' i k := by
  induction h with
  | core h => exact ⟨0, le_rfl, filterMap_of_inner entered_of_inner (hcore _ _ h)⟩
  | stopped | panicked => exact ⟨1, Nat.le_add_left .., rfl⟩
  | proceeded _ ih =>
    obtain ⟨k, hk, hentered⟩ := ih
    refine ⟨k + 1, Nat.succ_le_succ hk, ?_⟩
    simp [Stage.entered?, hentered, List.range'_succ]
  | interrupted _ ih =>
    obtain ⟨k, hk, hentered⟩ := ih
    refine ⟨k + 1, Nat.succ_le_succ hk, ?_⟩
    simp [Stage.entered?, hentered, List.range'_succ]

/-- Steps that are entered are left in the reverse order, unless there is a panic. -/
theorem Nested.left {x : Passage} (h : Nested core i n ss r) (hr : r = .ok x)
    (hcore : ∀ ss r, core ss r → ∀ s ∈ ss, s.isInner) :
    ss.filterMap Stage.left? = (ss.filterMap Stage.entered?).reverse := by
  induction h generalizing x with
  | core h =>
    rw [filterMap_of_inner entered_of_inner (hcore _ _ h), filterMap_of_inner left_of_inner (hcore _ _ h)]
    rfl
  | stopped => rfl
  | panicked | interrupted => cases hr
  | proceeded _ ih =>
    subst hr
    simp [List.filterMap_cons, Stage.entered?, Stage.left?, ih rfl]

/-- Nothing inside a step that stops is run: only steps around it come before it, and only their last words
after it. -/
theorem Nested.around_stop {before after : List Stage} {j : Nat} {result : Passage} (h : Nested core i n ss r)
    (hcore : ∀ ss r, core ss r → ∀ s ∈ ss, s.isInner)
    (hss : ss = before ++ .enters j (.ok (.stop result)) :: after) :
    (∀ s ∈ before, ∃ k further, s = .enters k (.ok (.proceed further))) ∧ ∀ s ∈ after, s.isLeave := by
  obtain ⟨enters, inmost, leaves, rfl, henters, hinmost, hleaves⟩ := h.parts
  have hstop : ∀ {k result}, Stage.enters k (.ok (.stop result)) ∉ enters := fun hs => nomatch henters _ hs
  have hstop' : ∀ {k result}, Stage.enters k (.ok (.stop result)) ∉ leaves := fun hs => nomatch hleaves _ hs
  have hmem : Stage.enters j (.ok (.stop result)) ∈ inmost := by
    have hmem : Stage.enters j (.ok (.stop result)) ∈ enters ++ (inmost ++ leaves) := by
      rw [hss]
      simp
    exact ((List.mem_append.1 hmem).resolve_left hstop |> List.mem_append.1).resolve_right hstop'
  cases hinmost with
  | core h => exact nomatch hcore _ _ h _ hmem
  | panicked => exact nomatch List.mem_singleton.1 hmem
  | stopped =>
    obtain ⟨⟩ := List.mem_singleton.1 hmem
    obtain ⟨rfl, -, rfl⟩ := (List.append_cons_inj_of_notMem hstop hstop').1 hss
    exact ⟨henters, hleaves⟩

/-- Once a step has the last word, nothing else is run but the last words of the steps around it. -/
theorem Nested.after_leave {before after : List Stage} {s : Stage} (h : Nested core i n ss r)
    (hcore : ∀ ss r, core ss r → ∀ s ∈ ss, s.isInner) (hss : ss = before ++ s :: after) (hs : s.isLeave) :
    ∀ t ∈ after, t.isLeave := by
  obtain ⟨enters, inmost, leaves, rfl, henters, hinmost, hleaves⟩ := h.parts
  have henters : s ∉ enters := by
    intro hmem
    obtain ⟨k, further, rfl⟩ := henters s hmem
    cases hs
  have hinmost : s ∉ inmost := by
    intro hmem
    cases hinmost with
    | core h =>
      have hinner := hcore _ _ h s hmem
      cases s with
      | leaves => cases hinner
      | _ => cases hs
    | stopped | panicked =>
      rw [List.mem_singleton.1 hmem] at hs
      cases hs
  obtain ⟨rest, hrest⟩ := split_right hss henters
  obtain ⟨rest, rfl⟩ := split_right hrest hinmost
  exact fun t ht => hleaves t (List.mem_append_right _ (List.mem_cons_of_mem _ ht))

/-- What the function returned is routed before any step has the last word, if it could be stored. -/
theorem Nested.routed {before after : List Stage} {handler : HandlerId} {arguments : Arguments}
    {result : HandlerResult} (h : Nested (Core c facts) i n ss r)
    (hss : ss = before ++ .calls handler arguments (.ok (.ok result)) :: after) :
    ∃ leaves, (∀ s ∈ leaves, s.isLeave) ∧ ((∃ e, after = .stores result (.error e) :: leaves) ∨
      ∃ taken routes x, RoutesResult facts taken routes x ∧
        after = .stores result (.ok ()) :: .takes taken :: (routes ++ leaves)) := by
  obtain ⟨enters, inmost, leaves, rfl, henters, hinmost, hleaves⟩ := h.parts
  refine ⟨leaves, hleaves, ?_⟩
  obtain ⟨rest, hrest⟩ := split_right hss fun hs => nomatch henters _ hs
  obtain ⟨rest', rfl, rfl⟩ := split_left hrest fun hs => nomatch hleaves _ hs
  generalize hl : rest ++ Stage.calls handler arguments (.ok (.ok result)) :: rest' = l at hinmost
  have hcall : Stage.calls handler arguments (.ok (.ok result)) ∈ l := hl ▸ by simp
  cases hinmost with
  | stopped | panicked => exact nomatch List.mem_singleton.1 hcall
  | core hcore =>
    cases hcore with
    | failed hexecutes hr =>
      obtain ⟨-, -, hends, -⟩ := hexecutes.execution.once _ _ _ _ _ hl.symm
      cases hends with
      | @returned _ stored =>
        cases stored with
        | ok => exact absurd rfl hr
        | error e => exact .inl ⟨e, rfl⟩
    | routed hexecutes hroutes =>
      obtain ⟨rest'', rfl, rfl⟩ := split_left hl.symm fun hs => by
        rcases List.mem_cons.1 hs with hs | hs
        · cases hs
        · exact nomatch (hroutes.quiet _ hs).2
      obtain ⟨-, -, hends, -⟩ := hexecutes.execution.once _ _ _ _ _ rfl
      generalize hr : (Except.ok (Except.ok ()) : Except Panic Passage) = r' at hends
      cases hends with
      | @returned _ stored =>
        cases stored with
        | ok =>
          refine .inr ⟨_, _, _, hroutes, ?_⟩
          simp only [List.cons_append, List.nil_append]
        | error e => cases hr

end

/-! ## Every run is nested -/

/-- How middleware, so many steps, was wrapped around a function. -/
structure Nesting (c : ContextId) (facts : ContextFacts) (n : Nat) (stages : List Stage)
    (r : Except Panic Passage) : Prop where
  nested : Nested (Core c facts) 0 n stages r
  entered : ∃ k ≤ n, stages.filterMap Stage.entered? = List.range k
  left : ∀ x, r = .ok x → stages.filterMap Stage.left? = (stages.filterMap Stage.entered?).reverse
  /-- Nothing inside a step that stops is run. -/
  stopped : ∀ before i result after, stages = before ++ .enters i (.ok (.stop result)) :: after →
    (∀ s ∈ before, ∃ j further, s = .enters j (.ok (.proceed further))) ∧ ∀ s ∈ after, s.isLeave
  once : stages.countP Stage.isCall ≤ 1
  /-- What a function returned is routed before any step has the last word. -/
  routed : ∀ before handler arguments result after,
    stages = before ++ .calls handler arguments (.ok (.ok result)) :: after →
    ∃ leaves, (∀ s ∈ leaves, s.isLeave) ∧ ((∃ e, after = .stores result (.error e) :: leaves) ∨
      ∃ taken routes x, RoutesResult facts taken routes x ∧
        after = .stores result (.ok ()) :: .takes taken :: (routes ++ leaves))
  last : ∀ before s after, stages = before ++ s :: after → s.isLeave → ∀ t ∈ after, t.isLeave

theorem Nested.nesting {n : Nat} (h : Nested (Core c facts) 0 n ss r) : Nesting c facts n ss r where
  nested := h
  entered := by
    obtain ⟨k, hk, hentered⟩ := h.entered fun _ _ hcore => hcore.inner
    exact ⟨k, hk, hentered.trans (List.range_eq_range' ..).symm⟩
  left := fun x hr => h.left hr fun _ _ hcore => hcore.inner
  stopped := fun _ _ _ _ hss => h.around_stop (fun _ _ hcore => hcore.inner) hss
  once := by
    obtain ⟨enters, inmost, leaves, rfl, henters, hinmost, hleaves⟩ := h.parts
    have henters : enters.countP Stage.isCall = 0 := countP_call_of_none fun s hs => by
      obtain ⟨j, after, rfl⟩ := henters s hs
      rfl
    have hleaves : leaves.countP Stage.isCall = 0 := countP_call_of_none fun s hs => by
      have hleave := hleaves s hs
      cases s with
      | leaves => rfl
      | _ => cases hleave
    rw [List.countP_append, List.countP_append, henters, hleaves, Nat.zero_add, Nat.add_zero]
    cases hinmost with
    | core h => exact h.calls_le
    | stopped | panicked => exact Nat.zero_le 1
  routed := fun _ _ _ _ _ hss => h.routed hss
  last := fun _ _ _ hss hs => h.after_leave (fun _ _ hcore => hcore.inner) hss hs

/-- A result that was stored before the last words of the steps is routed into the outputs of the context, if no
other task touches it or them. -/
theorem Nesting.fills {n : Nat} {w v w' : World} {es₁ es₂ : List Event} {before after : List Stage}
    {handler : HandlerId} {arguments : Arguments} {result : HandlerResult} (hc : c < w.contexts.length)
    (h : Nesting c (w.context c).facts n
      (before ++ .calls handler arguments (.ok (.ok result)) :: .stores result (.ok ()) :: after) r)
    (hbefore : Goes p c (before ++ [.calls handler arguments (.ok (.ok result)), .stores result (.ok ())]) w es₁ v)
    (hafter : Goes p c after v es₂ w') (hspares : Spares c (es₁ ++ es₂))
    (hothers : ∀ e ∈ es₁ ++ es₂, e.mine = false → ¬ e.op.UsesResult c) :
    Fills p c (w.context c).facts result after v es₂ w' := by
  obtain ⟨leaves, hleaves, ⟨e, herror⟩ | ⟨taken, routes, x, hroutes, hstages⟩⟩ := h.routed _ _ _ _ _ rfl
  · cases (List.cons.inj herror).1
  · obtain rfl := (List.cons.inj hstages).2
    obtain ⟨es₃, v₃, _, rfl, hfirst, es₄, v₄, es₅, rfl, hcalls, hstored⟩ := hbefore.of_append
    have hv₃ := hfirst.leads.facts hc
    have hv₄ := hcalls.leads.facts hv₃.1
    obtain rfl : taken = some result :=
      taken_of_stored hv₄.1 (hstored.append hafter) fun e he => hothers e (by simp at he ⊢; tauto)
    obtain ⟨es₆, v₆, es₇, rfl, hstores, hlast, hleads⟩ := hstored
    obtain ⟨os, hstands⟩ := stands_of_stored hv₄.1 hspares.left.right.right.left hstores
    rw [hv₄.2, hv₃.2] at hstands
    have hstands := hstands.others hspares.left.right.right.right hlast hleads
    exact fills_of_stands hstands hspares.right hafter hroutes hleaves

/-- A pipeline is its middleware wrapped around the routing of results around the function. The steps that are
entered are the first ones in order, and those are left in the reverse order; inside a step that stops nothing is
run, and the function is called no more than once. Its result is routed before any step has the last word: what is
taken to be routed is what was stored, unless another task puts or takes a result meanwhile; and if no other task
touches the outputs either, they are then those of before with the result's put over them. -/
theorem run_nests (p : Pipeline) {c : ContextId} {w : World} (hc : c < w.contexts.length) :
    (∃ es r w', Job.Run (p.run c) w es r w') ∧
    (∀ es r w', Job.Run (p.run c) w es r w' ↔ ∃ stages, Goes p c stages w es w' ∧
      Nesting c (w.context c).facts p.middleware.length stages r) ∧
    (∀ stages es w', Goes p c stages w es w' → (∀ e ∈ es, e.mine = false → ¬ e.op.UsesResult c) →
      ∀ before result taken after, stages = before ++ .stores result (.ok ()) :: .takes taken :: after →
        taken = some result) ∧
    ∀ before handler arguments result after es₁ v es₂ r w',
      Goes p c (before ++ [.calls handler arguments (.ok (.ok result)), .stores result (.ok ())]) w es₁ v →
      Goes p c after v es₂ w' →
      Nesting c (w.context c).facts p.middleware.length
        (before ++ .calls handler arguments (.ok (.ok result)) :: .stores result (.ok ()) :: after) r →
      Spares c (es₁ ++ es₂) → (∀ e ∈ es₁ ++ es₂, e.mine = false → ¬ e.op.UsesResult c) →
      Fills p c (w.context c).facts result after v es₂ w' := by
  refine ⟨?_, fun es r w' => ?_, ?_, ?_⟩
  · obtain ⟨es, -, run⟩ := Job.run_alone (p.run c) w
    exact ⟨es, _, _, run⟩
  · rw [show Job.Run (p.run c) w es r w' ↔ _ from runWith_tells core_tells p.middleware 0 rfl w es r w' hc rfl]
    exact exists_congr fun stages => and_congr_right fun _ => ⟨fun h => h.nesting, fun h => h.nested⟩
  · rintro _ es w' hgoes hothers before result taken after rfl
    obtain ⟨es₁, v, es₂, rfl, hbefore, hgoes⟩ := hgoes.of_append
    exact taken_of_stored (hbefore.leads.facts hc).1 hgoes fun e he => hothers e (List.mem_append_right _ he)
  · intro before handler arguments result after es₁ v es₂ r w' hbefore hafter h hspares hothers
    exact h.fills hc hbefore hafter hspares hothers

/-! A function with an output of its own and a value that it returns, behind two steps: the outer one lets no error
pass, and the inner one stops when the token is signalled. -/

def clerk : Definition where
  id := "7"
  name := "file"
  entryPoint := "file"
  outputs := ["Receipt", "$return"]
  handler := 0

def filed : HandlerResult where
  outputs := [("RECEIPT", .text "no. 7")]
  returned := some (.text "filed")

def hushed : Pipeline where
  handlers := fun _ _ => .done (.ok filed)
  middleware := [
    fun _ _ => .done (.proceed fun _ => .done (.ok ())),
    fun c _ => do
      let facts : ContextFacts ← Code.ask (.facts c)
      let signalled : Bool ← Code.ask (.isCancelled facts.token)
      return bif signalled then .stop (.error .cancelled) else .proceed .done]

def letter (token : TokenId) : ContextFacts := { invocationId := "7", definition := clerk, token }

/-- Of two contexts that are executing, the token of the second one is signalled. -/
def desk : World where
  contexts := [{ facts := letter 0, state := .executing }, { facts := letter 1, state := .executing }]
  cancellations := { tokens := [false, true] }

theorem clerk_outputName : clerk.outputName "RECEIPT" = some "Receipt" ∧
    clerk.outputName returnBinding = some "$return" := by
  have hfold : Text.fold "RECEIPT" = "receipt" ∧ Text.fold "Receipt" = "receipt" ∧
      Text.fold "$return" = "$return" := by
    refine ⟨?_, ?_, ?_⟩ <;> exact Text.fold_eq_iff.2 (by decide)
  simp [Definition.outputName, clerk, Text.sameName, returnBinding, hfold]

/-- The stages before the function, those in which its result is routed, and the last words. -/
def filing : List Stage :=
  [.enters 0 (.ok (.proceed fun _ => .done (.ok ()))), .enters 1 (.ok (.proceed .done)), .reads (letter 0),
    .looks 0 false]

def routing : List Stage :=
  [.sets "RECEIPT" (.text "no. 7") (.ok ()), .reads (letter 0), .sets returnBinding (.text "filed") (.ok ())]

def lastWords : List Stage :=
  [.leaves 1 .done (.ok ()) (.ok (.ok ())), .leaves 0 (fun _ => .done (.ok ())) (.ok ()) (.ok (.ok ()))]

def filedStages : List Stage :=
  filing ++ .calls 0 (.ofList []) (.ok (.ok filed)) :: .stores filed (.ok ()) :: .takes (some filed) ::
    (routing ++ lastWords)

theorem filedStages_nested : Nested (Core 0 (letter 0)) 0 2 filedStages (.ok (.ok ())) := by
  have hdeclared : clerk.hasReturnValue = true := by
    simp [Definition.hasReturnValue, Definition.declaresOutput, clerk_outputName]
  have hnamed : Routes filed.outputs [.sets "RECEIPT" (.text "no. 7") (.ok ())] (.ok (.ok ())) := .set .done
  have hroutes : RoutesResult (letter 0) (some filed) routing (.ok (.ok ())) :=
    .returned hnamed rfl hdeclared (.set .done)
  have hends : Ends (.ok (.ok filed)) [.stores filed (.ok ())] (.ok (.ok ())) := @Ends.returned filed (.ok ())
  have hcalls : Calls (letter 0) []
      [.looks 0 false, .calls 0 (.ofList []) (.ok (.ok filed)), .stores filed (.ok ())] (.ok (.ok ())) :=
    .called rfl rfl hends
  have hexecutes : Executes 0 (letter 0)
      [.reads (letter 0), .looks 0 false, .calls 0 (.ofList []) (.ok (.ok filed)), .stores filed (.ok ())]
      (.ok (.ok ())) := .bound .nil hcalls
  have hcore : Core 0 (letter 0) _ _ := .routed hexecutes hroutes
  exact .proceeded (.proceeded (.core hcore))

/-- Stages that are gone through while no other task does anything. -/
def Solo (p : Pipeline) (c : ContextId) (stages : List Stage) (w w' : World) : Prop :=
  ∃ es, Mine es ∧ Goes p c stages w es w'

theorem Solo.nil (w : World) : Solo p c [] w w := ⟨[], mine_nil, others_nil, rfl⟩

theorem Solo.cons {s : Stage} {w v w' : World} {es : List Event} (hmine : Mine es) (hs : s.Run p c w es v)
    (h : Solo p c ss v w') : Solo p c (s :: ss) w w' := by
  obtain ⟨es', hmine', h⟩ := h
  exact ⟨es ++ es', hmine.append hmine', es, v, es', rfl, hs, h⟩

/-- An output that is declared is set. -/
theorem set_alone {d : Definition} {os : List (String × OutputValue)} {w : World} {name : String}
    (h : Stands d c os w) (hname : d.declaresOutput name = true) (value : OutputValue) : ∃ es w', Mine es ∧
      Job.Run (Job.setOutput c name value) w es (.ok (.ok ())) w' ∧ Stands d c (d.setOutput os (name, value)) w' := by
  obtain ⟨es, hmine, run⟩ := Job.run_alone (Job.setOutput c name value) w
  obtain ⟨hanswer, hstands, -⟩ := h.setOutput (spares_of_mine hmine) run
  rw [hanswer, Definition.answer_eq_ok.2 hname] at run
  exact ⟨es, _, hmine, run, hstands⟩

theorem routing_solo {os : List (String × OutputValue)} {w : World} (h : Stands clerk 0 os w)
    (hfacts : (w.context 0).facts = letter 0) : ∃ w', Solo hushed 0 (routing ++ lastWords) w w' := by
  have hdeclared : clerk.declaresOutput "RECEIPT" = true ∧ clerk.declaresOutput returnBinding = true := by
    simp [Definition.declaresOutput, clerk_outputName]
  obtain ⟨es₁, w₁, hmine₁, hset₁, h₁⟩ := set_alone h hdeclared.1 (.text "no. 7")
  obtain ⟨es₂, hmine₂, hreads⟩ := Effect.yields_alone (.own (.onContext 0 .facts)) w₁
  have hread : ((Effect.own (Op.onContext 0 .facts)).alone w₁).1 = letter 0 :=
    (hset₁.leads.facts h.known).2.trans hfacts
  rw [hread] at hreads
  obtain ⟨es₃, w₃, hmine₃, hset₃, -⟩ :=
    set_alone (h₁.reads (spares_of_mine hmine₂) hreads) hdeclared.2 (.text "filed")
  have hlast : Solo hushed 0 lastWords w₃ w₃ :=
    .cons mine_nil (Job.run_done _ w₃) (.cons mine_nil (Job.run_done _ w₃) (.nil w₃))
  exact ⟨w₃, .cons hmine₁ hset₁ (.cons hmine₂ hreads (.cons hmine₃ hset₃ hlast))⟩

/-- The result of the function is stored and taken again, and no output is set before. -/
theorem filing_solo : ∃ u w', Solo hushed 0 (filing ++ [.calls 0 (.ofList []) (.ok (.ok filed)), .stores filed (.ok ())])
    desk u ∧ (u.context 0).outputs = [] ∧ Solo hushed 0 (.takes (some filed) :: (routing ++ lastWords)) u w' := by
  obtain ⟨es₁, hmine₁, henters⟩ := Job.run_alone (Code.job (hushed.middleware[1] 0 1)) desk
  obtain ⟨es₂, hmine₂, hreads⟩ := Effect.yields_alone (.own (.onContext 0 .facts)) desk
  obtain ⟨es₃, hmine₃, hlooks⟩ := Effect.yields_alone (.own (.isSignalled 0)) desk
  obtain ⟨es₄, hmine₄, hstores⟩ := Job.run_alone (Job.setResult 0 filed) desk
  generalize hu : (Routine.run Effect.alone (Job.setResult 0 filed) desk).2 = u at hstores
  obtain ⟨es₅, hmine₅, htakes⟩ := Effect.yields_alone (.own (.onContext 0 .takeResult)) u
  have htaken : (Effect.own (.onContext 0 .takeResult)).alone u = (some filed, desk) := hu ▸ rfl
  rw [htaken] at htakes
  have hstands : Stands clerk 0 [] desk := ⟨by decide, rfl, rfl, rfl⟩
  obtain ⟨w', hroutes⟩ := routing_solo hstands rfl
  have henters : Stage.Run hushed 0 (.enters 1 (.ok (.proceed .done))) desk es₁ desk := ⟨_, rfl, henters⟩
  have hlooks : Stage.Run hushed 0 (.looks 0 false) desk es₃ desk := hlooks
  have hreads : Stage.Run hushed 0 (.reads (letter 0)) desk es₂ desk := hreads
  have hstores : Solo hushed 0 [.stores filed (.ok ())] desk u := .cons hmine₄ hstores (.nil u)
  have hcalls : Solo hushed 0 [.calls 0 (.ofList []) (.ok (.ok filed)), .stores filed (.ok ())] desk u :=
    .cons mine_nil (Job.run_done _ desk) hstores
  refine ⟨u, w', .cons mine_nil ⟨_, rfl, Job.run_done _ desk⟩ ?_, hu ▸ rfl, .cons hmine₅ htakes hroutes⟩
  exact .cons hmine₁ henters (.cons hmine₂ hreads (.cons hmine₃ hlooks hcalls))

theorem routed_filed : (clerk.routed filed.entries).foldl clerk.setOutput [] =
    [("Receipt", .text "no. 7"), ("$return", .text "filed")] := by
  have hentries : filed.entries = [("RECEIPT", .text "no. 7"), (returnBinding, .text "filed")] := rfl
  rw [hentries, Definition.routed_self (by simp [Definition.declaresOutput, clerk_outputName])]
  rw [List.foldl_cons, List.foldl_cons, List.foldl_nil, Definition.setOutput_declared clerk_outputName.1,
    Definition.setOutput_declared clerk_outputName.2]
  simp [Entries.put]

/-- The stages of the invocation whose token is signalled. -/
def turnedAway : List Stage :=
  [.enters 0 (.ok (.proceed fun _ => .done (.ok ()))), .enters 1 (.ok (.stop (.error .cancelled))),
    .leaves 0 (fun _ => .done (.ok ())) (.error .cancelled) (.ok (.ok ()))]

theorem turnedAway_solo : Solo hushed 1 turnedAway desk desk := by
  obtain ⟨es, hmine, henters⟩ := Job.run_alone (Code.job (hushed.middleware[1] 1 1)) desk
  have henters : Stage.Run hushed 1 (.enters 1 (.ok (.stop (.error .cancelled)))) desk es desk := ⟨_, rfl, henters⟩
  exact .cons mine_nil ⟨_, rfl, Job.run_done _ desk⟩ (.cons hmine henters (.cons mine_nil (Job.run_done _ desk) (.nil desk)))

/-- The first invocation has both outputs when the steps come to their last words; in the second one the inner step
stops, and the function is not called. -/
theorem run_nests_hushed :
    (∃ es w' v es' leaves, Job.Run (hushed.run 0) desk es (.ok (.ok ())) w' ∧ Goes hushed 0 filedStages desk es w' ∧
      Nesting 0 (letter 0) 2 filedStages (.ok (.ok ())) ∧ (∀ s ∈ leaves, s.isLeave) ∧
      (v.context 0).outputs = [("Receipt", .text "no. 7"), ("$return", .text "filed")] ∧
      Goes hushed 0 leaves v es' w') ∧
    ∃ es w', Job.Run (hushed.run 1) desk es (.ok (.ok ())) w' ∧ Goes hushed 1 turnedAway desk es w' ∧
      Nesting 1 (letter 1) 2 turnedAway (.ok (.ok ())) := by
  constructor
  · obtain ⟨-, hruns, -, hfills⟩ := run_nests hushed (c := 0) (w := desk) (by decide)
    obtain ⟨u, w', ⟨es₁, hmine₁, hbefore⟩, hnone, es₂, hmine₂, hafter⟩ := filing_solo
    have hmine : Mine (es₁ ++ es₂) := hmine₁.append hmine₂
    have hnesting : Nesting 0 (letter 0) 2 filedStages (.ok (.ok ())) := filedStages_nested.nesting
    have hgoes : Goes hushed 0 filedStages desk (es₁ ++ es₂) w' := hbefore.append hafter
    obtain ⟨-, -, hleaves, -, -, -, houtputs, hlast⟩ := hfills filing 0 _ filed _ _ _ _ _ _ hbefore hafter hnesting
      (spares_of_mine hmine) fun e he hother => nomatch (hmine e he).symm.trans hother
    rw [hnone] at houtputs
    refine ⟨_, w', _, _, _, (hruns _ _ _).2 ⟨_, hgoes, hnesting⟩, hgoes, hnesting, hleaves, ?_, hlast⟩
    exact houtputs.trans routed_filed
  · obtain ⟨-, hruns, -⟩ := run_nests hushed (c := 1) (w := desk) (by decide)
    obtain ⟨es, -, hgoes⟩ := turnedAway_solo
    have hnesting : Nesting 1 (letter 1) 2 turnedAway (.ok (.ok ())) := (Nested.proceeded .stopped).nesting
    exact ⟨es, desk, (hruns _ _ _).2 ⟨_, hgoes, hnesting⟩, hgoes, hnesting⟩

end FunctionWorker.Pipeline
