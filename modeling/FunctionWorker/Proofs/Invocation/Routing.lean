/-
How the result of a function comes into the outputs of its context. What was stored is taken, its named outputs
are set in order, and then the value that was returned, if an output is declared for it; the first name that is not
declared is the last that is looked at.
-/
import FunctionWorker.Proofs.Invocation.Stages
import FunctionWorker.Proofs.Worker.OutputParameters
import Mathlib.Data.List.TakeWhile

namespace FunctionWorker

/-! ## The result of a context -/

/-- An operation that puts or takes the result of a context. -/
def Op.UsesResult (c : ContextId) : Op → Prop
  | .onContext c' (.putResult _) | .onContext c' .takeResult => c' = c
  | _ => False

theorem step_result {c : ContextId} {s : ContextStep} (x : Context) (hs : ¬ (Op.onContext c s).UsesResult c) :
    (s.perform x).2.result = x.result := by
  have hmove : ∀ sources target, (x.move sources target).2.result = x.result := by
    intro sources target
    rcases move_cases sources target x with hx | ⟨-, hx⟩ <;> rw [hx]
  cases s with
  | begin | complete | fault => exact hmove _ _
  | markDisposed =>
    show x.markDisposed.2.result = x.result
    rw [markDisposed_eq]
  | putResult | takeResult => exact absurd rfl hs
  | _ => rfl

/-- The result of a context stays as it is as long as nobody puts or takes one. -/
theorem Leads.result {c : ContextId} {w w' : World} {es : List Event} {x : Option HandlerResult}
    (h : Leads w es w') (hnone : ∀ e ∈ es, ¬ e.op.UsesResult c)
    (hw : c < w.contexts.length ∧ (w.context c).result = x) :
    c < w'.contexts.length ∧ (w'.context c).result = x := by
  refine h.keeps (P := fun v => c < v.contexts.length ∧ (v.context c).result = x) ?_ hw
  intro e he ⟨hc, hx⟩
  refine ⟨hc.trans_le e.length_le, ?_⟩
  rw [e.context_after hc]
  refine actOn_keeps (Q := fun y => y.result = x) (fun s hop => ?_) (fun _ _ _ => hx) hx
  rw [step_result _ (hop ▸ hnone e he), hx]

/-! ## What is routed -/

/-- What a result has for outputs, in the order in which it is routed: its named outputs, and then the value that
was returned. -/
def HandlerResult.entries (result : HandlerResult) : List (String × OutputValue) :=
  result.outputs ++ result.returned.toList.map (returnBinding, ·)

/-- What is routed: the entries up to the first that is not declared. -/
def Definition.routed (d : Definition) (entries : List (String × OutputValue)) : List (String × OutputValue) :=
  entries.takeWhile fun e => d.declaresOutput e.1

namespace Definition

variable {d : Definition} {e : String × OutputValue} {xs ys : List (String × OutputValue)}

theorem routed_cons_declared (h : d.declaresOutput e.1 = true) : d.routed (e :: xs) = e :: d.routed xs :=
  List.takeWhile_cons_of_pos h

theorem routed_cons_undeclared (h : d.declaresOutput e.1 = false) : d.routed (e :: xs) = [] :=
  List.takeWhile_cons_of_neg (Bool.eq_false_iff.1 h)

theorem routed_append (h : ∀ e ∈ xs, d.declaresOutput e.1 = true) : d.routed (xs ++ ys) = xs ++ d.routed ys :=
  List.takeWhile_append_of_pos h

/-- An entry that is not declared hides those after it. -/
theorem routed_append_undeclared (h : ∃ e ∈ xs, d.declaresOutput e.1 = false) :
    d.routed (xs ++ ys) = d.routed xs := by
  induction xs with
  | nil => simp at h
  | cons x xs ih =>
    rw [List.cons_append]
    cases hx : d.declaresOutput x.1 with
    | false => rw [routed_cons_undeclared hx, routed_cons_undeclared hx]
    | true =>
      obtain ⟨e, he, hundeclared⟩ := h
      rcases List.mem_cons.1 he with rfl | he
      · rw [hx] at hundeclared
        cases hundeclared
      · rw [routed_cons_declared hx, routed_cons_declared hx, ih ⟨e, he, hundeclared⟩]

theorem routed_self (h : ∀ e ∈ xs, d.declaresOutput e.1 = true) : d.routed xs = xs :=
  List.takeWhile_eq_self_iff.2 h

end Definition

/-- To read the facts of a context leaves its outputs as they are. -/
theorem Stands.reads {d : Definition} {c : ContextId} {os : List (String × OutputValue)} {w w' : World}
    {es : List Event} {answer : ContextFacts} (h : Stands d c os w) (hspares : Spares c es)
    (hreads : Op.Yields (.onContext c .facts) w es answer w') : Stands d c os w' := by
  obtain ⟨v, hstands, -, rfl⟩ := h.yields hspares hreads
  exact hstands.perform fun _ => trivial

namespace Pipeline

/-! ## Routing in stages -/

/-- Named outputs are set in order, up to the first that is refused. -/
inductive Routes : List (String × OutputValue) → List Stage → Except Panic Passage → Prop
  | done : Routes [] [] (.ok (.ok ()))
  | refused {name value rest e} :
      Routes ((name, value) :: rest) [.sets name value (.error e)] (.ok (.error (.context e)))
  | set {name value rest ss r} (h : Routes rest ss r) :
      Routes ((name, value) :: rest) (.sets name value (.ok ()) :: ss) r

/-- The result of a function is routed: first its named outputs, then the value it returned if an output is
declared for it, which is dropped otherwise. -/
inductive RoutesResult (facts : ContextFacts) : Option HandlerResult → List Stage → Except Panic Passage → Prop
  | nothing : RoutesResult facts none [] (.ok (.ok ()))
  | refused {result ss e} (h : Routes result.outputs ss (.ok (.error e))) :
      RoutesResult facts (some result) ss (.ok (.error e))
  | returned {result ss value ss' r} (h : Routes result.outputs ss (.ok (.ok ())))
      (hvalue : result.returned = some value) (hdeclared : facts.definition.hasReturnValue = true)
      (hreturn : Routes [(returnBinding, value)] ss' r) :
      RoutesResult facts (some result) (ss ++ .reads facts :: ss') r
  | dropped {result ss} (h : Routes result.outputs ss (.ok (.ok ())))
      (hnone : result.returned = none ∨ facts.definition.hasReturnValue = false) :
      RoutesResult facts (some result) (ss ++ [.reads facts]) (.ok (.ok ()))

variable {p : Pipeline} {c : ContextId} {facts : ContextFacts} {ss : List Stage} {r : Except Panic Passage}

theorem setOutput_tells (name : String) (value : OutputValue) :
    Tells p c facts (Job.setOutput c name value) (.answered (.sets name value)) := by
  refine Tells.answered _ (fun w es r w' hc run => ?_) fun _ _ _ _ => Iff.rfl
  rcases setOutput_inv hc run with ⟨-, -, refusal, -, hr⟩ | hr
  · exact ⟨_, hr⟩
  · exact ⟨_, hr⟩

/-- Outputs are set one after another: the first one, and then the others if that was set. -/
theorem routes_cons {name : String} {value : OutputValue} {rest : List (String × OutputValue)} :
    Kind.andThen (.answered (.sets name value)) (fun
      | .error e => .silent (.error (.context e))
      | .ok () => Routes rest) ss r ↔ Routes ((name, value) :: rest) ss r := by
  rw [Kind.andThen_answered]
  constructor
  · rintro ⟨answer, ss', rfl, h⟩
    cases answer with
    | error e =>
      obtain ⟨rfl, rfl⟩ := h
      exact .refused
    | ok => exact .set h
  · intro h
    cases h with
    | refused => exact ⟨_, [], rfl, rfl, rfl⟩
    | set h => exact ⟨.ok (), _, rfl, h⟩

theorem route_tells : ∀ outputs : List (String × OutputValue),
    Tells p c facts (route c outputs) (Routes outputs)
  | [] => by
    refine (Tells.done _).congr fun ss r => ⟨?_, ?_⟩
    · rintro ⟨rfl, rfl⟩
      exact .done
    · rintro ⟨⟩
      exact ⟨rfl, rfl⟩
  | (name, value) :: rest => by
    refine ((setOutput_tells name value).bind fun answer _ _ => ?_).congr fun _ _ => routes_cons
    cases answer with
    | error e => exact .done _
    | ok => exact route_tells rest

/-- To set outputs is no occasion for a panic. -/
theorem Routes.ends {outputs : List (String × OutputValue)} (h : Routes outputs ss r) : ∃ x, r = .ok x := by
  induction h with
  | done | refused => exact ⟨_, rfl⟩
  | set _ ih => exact ih

/-- What a function returned directly is routed once its named outputs are set. -/
theorem routesResult_some {result : HandlerResult} : Kind.andThen (Routes result.outputs) (fun
      | .error e => .silent (.error e)
      | .ok () => fun ss r => ∃ ss', ss = .reads facts :: ss' ∧ (match result.returned with
        | some value =>
          bif facts.definition.hasReturnValue then Routes [(returnBinding, value)] else .silent (.ok ())
        | none => .silent (.ok ()) : Kind Passage) ss' r) ss r ↔ RoutesResult facts (some result) ss r := by
  constructor
  · rintro (⟨x, ss₁, ss₂, rfl, h, hrest⟩ | ⟨x, h, rfl⟩)
    · cases x with
      | error e =>
        obtain ⟨rfl, rfl⟩ := hrest
        rw [List.append_nil]
        exact .refused h
      | ok =>
        obtain ⟨ss', rfl, hreturn⟩ := hrest
        cases hvalue : result.returned with
        | none =>
          rw [hvalue] at hreturn
          obtain ⟨rfl, rfl⟩ := hreturn
          exact .dropped h (.inl hvalue)
        | some value =>
          rw [hvalue] at hreturn
          cases hdeclared : facts.definition.hasReturnValue with
          | true =>
            rw [hdeclared] at hreturn
            exact .returned h hvalue hdeclared hreturn
          | false =>
            rw [hdeclared] at hreturn
            obtain ⟨rfl, rfl⟩ := hreturn
            exact .dropped h (.inr hdeclared)
    · exact nomatch h.ends
  · intro h
    cases h with
    | refused h => exact .inl ⟨_, ss, [], (List.append_nil _).symm, h, rfl, rfl⟩
    | returned h hvalue hdeclared hreturn =>
      refine .inl ⟨.ok (), _, _, rfl, h, _, rfl, ?_⟩
      rw [hvalue, hdeclared]
      exact hreturn
    | dropped h hnone =>
      refine .inl ⟨.ok (), _, _, rfl, h, [], rfl, ?_⟩
      rcases hnone with hnone | hnone
      · rw [hnone]
        exact ⟨rfl, rfl⟩
      · rw [hnone]
        cases result.returned <;> exact ⟨rfl, rfl⟩

theorem routeResult_tells : Tells p c facts (routeResult c)
    fun ss r => ∃ taken ss', ss = .takes taken :: ss' ∧ RoutesResult facts taken ss' r := by
  have htakes : Tells p c facts (Job.onContext c .takeResult) (.answered .takes) :=
    Tells.op (.onContext c .takeResult) .takes fun _ _ _ _ => Iff.rfl
  refine (htakes.bind (S := RoutesResult facts) fun taken _ _ => ?_).congr fun _ _ => Kind.andThen_answered
  cases taken with
  | none =>
    refine (Tells.done _).congr fun ss r => ⟨?_, ?_⟩
    · rintro ⟨rfl, rfl⟩
      exact .nothing
    · rintro ⟨⟩
      exact ⟨rfl, rfl⟩
  | some result =>
    refine ((route_tells _).bind fun x _ _ => ?_).congr fun _ _ => routesResult_some
    cases x with
    | error e => exact .done _
    | ok =>
      refine Tells.reads ?_
      cases result.returned with
      | none => exact .done _
      | some value =>
        dsimp only
        cases facts.definition.hasReturnValue with
        | true => exact route_tells [(returnBinding, value)]
        | false => exact .done _

/-- To route is to set outputs. -/
theorem Routes.quiet {outputs : List (String × OutputValue)} (h : Routes outputs ss r) :
    ∀ s ∈ ss, s.isInner ∧ s.isCall = false := by
  induction h with
  | done => exact fun s hs => absurd hs List.not_mem_nil
  | refused => exact fun s hs => List.mem_singleton.1 hs ▸ ⟨rfl, rfl⟩
  | set _ ih => exact List.forall_mem_cons.2 ⟨⟨rfl, rfl⟩, ih⟩

theorem RoutesResult.quiet {taken : Option HandlerResult} (h : RoutesResult facts taken ss r) :
    ∀ s ∈ ss, s.isInner ∧ s.isCall = false := by
  cases h with
  | nothing => exact fun s hs => absurd hs List.not_mem_nil
  | refused h => exact h.quiet
  | returned h _ _ hreturn =>
    exact List.forall_mem_append.2 ⟨h.quiet, List.forall_mem_cons.2 ⟨⟨rfl, rfl⟩, hreturn.quiet⟩⟩
  | dropped h _ =>
    exact List.forall_mem_append.2 ⟨h.quiet, fun s hs => List.mem_singleton.1 hs ▸ ⟨rfl, rfl⟩⟩

/-- What is taken is what was stored just before, if no other task puts or takes a result meanwhile. -/
theorem taken_of_stored {w w' : World} {es : List Event} {result : HandlerResult} {taken : Option HandlerResult}
    (hc : c < w.contexts.length) (h : Goes p c (.stores result (.ok ()) :: .takes taken :: ss) w es w')
    (hothers : ∀ e ∈ es, e.mine = false → ¬ e.op.UsesResult c) : taken = some result := by
  obtain ⟨es₁, v, es', rfl, stores, h⟩ := h
  obtain ⟨es₂, v', es'', rfl, takes, -⟩ := h
  obtain ⟨es₃, es₄, checked, u, rfl, hchecked, stores⟩ := Job.Run.op_inv stores
  cases checked with
  | error e => cases stores.2.2
  | ok =>
    obtain ⟨es₅, es₆, a, u', rfl, ⟨es₇, x, rfl, -, hleads, -, rfl⟩, hothers₆, hleads₆, -⟩ := Job.Run.op_inv stores
    obtain ⟨es₈, y, rfl, hothers₈, hleads₈, rfl, -⟩ := takes
    have hx : c < x.contexts.length := (hleads.facts (hchecked.leads.facts hc).1).1
    have hput : c < (World.perform (.onContext c (.putResult result)) x).2.contexts.length ∧
        ((World.perform (.onContext c (.putResult result)) x).2.context c).result = some result :=
      ⟨hx.trans_le (length_le_perform _ x), by rw [context_step _ hx]; rfl⟩
    have hy := hleads₈.result (fun e he => hothers e (by simp [he]) (hothers₈ e he))
      (hleads₆.result (fun e he => hothers e (by simp [he]) (hothers₆ e he)) hput)
    exact hy.2

/-! ## What routing puts -/

variable {w w' : World} {es : List Event} {os : List (String × OutputValue)}

/-- Outputs that are set in order are put up to the first that is not declared. They are all set just when none of
them is undeclared. -/
theorem Routes.puts {d : Definition} {outputs : List (String × OutputValue)} (h : Routes outputs ss r)
    (hgoes : Goes p c ss w es w') (hstands : Stands d c os w) (hspares : Spares c es) :
    Stands d c ((d.routed outputs).foldl d.setOutput os) w' ∧
      (r = .ok (.ok ()) ↔ ∀ o ∈ outputs, d.declaresOutput o.1 = true) := by
  induction h generalizing os w es with
  | done => exact ⟨hstands.others hspares hgoes.1 hgoes.2, fun _ _ h => absurd h List.not_mem_nil, fun _ => rfl⟩
  | @refused name value rest e =>
    obtain ⟨es₁, v, es₂, rfl, hset, hothers, hleads⟩ := hgoes
    obtain ⟨hanswer, hstands, -⟩ := hstands.setOutput hspares.left hset
    have hundeclared : d.declaresOutput name = false := by
      refine Bool.eq_false_iff.2 fun h => ?_
      rw [Definition.answer_eq_ok.2 h] at hanswer
      cases hanswer
    have hname : d.outputName name = none := by simpa [Definition.declaresOutput] using hundeclared
    rw [Definition.setOutput_undeclared hname] at hstands
    rw [Definition.routed_cons_undeclared hundeclared]
    refine ⟨hstands.others hspares.right hothers hleads, by simp, fun hall => ?_⟩
    rw [hall _ (List.mem_cons_self ..)] at hundeclared
    cases hundeclared
  | @set name value rest ss r _ ih =>
    obtain ⟨es₁, v, es₂, rfl, hset, hgoes⟩ := hgoes
    obtain ⟨hanswer, hstands, -⟩ := hstands.setOutput hspares.left hset
    have hdeclared : d.declaresOutput name = true := Definition.answer_eq_ok.1 (Except.ok.inj hanswer).symm
    obtain ⟨hrest, hr⟩ := ih hgoes hstands hspares.right
    rw [Definition.routed_cons_declared hdeclared, List.forall_mem_cons, hr]
    exact ⟨hrest, fun h => ⟨hdeclared, h⟩, fun h => h.2⟩

/-- A result is routed by putting its entries up to the first that is not declared. -/
theorem RoutesResult.puts {result : HandlerResult} (h : RoutesResult facts (some result) ss r)
    (hgoes : Goes p c ss w es w') (hstands : Stands facts.definition c os w) (hspares : Spares c es) :
    Stands facts.definition c
      ((facts.definition.routed result.entries).foldl facts.definition.setOutput os) w' ∧
      (r = .ok (.ok ()) ↔ ∀ o ∈ result.outputs, facts.definition.declaresOutput o.1 = true) := by
  unfold HandlerResult.entries
  cases h with
  | refused h =>
    obtain ⟨hput, hr⟩ := h.puts hgoes hstands hspares
    have hsome : ∃ o ∈ result.outputs, facts.definition.declaresOutput o.1 = false := by
      have hnot := mt hr.2 nofun
      push Not at hnot
      simpa using hnot
    rw [Definition.routed_append_undeclared hsome]
    exact ⟨hput, hr⟩
  | returned h hvalue hdeclared hreturn =>
    obtain ⟨es₁, v, _, rfl, hnamed, es₂, u, es₃, rfl, hreads, hgoes⟩ := hgoes.of_append
    obtain ⟨hput, hr⟩ := h.puts hnamed hstands hspares.left
    have hall := hr.1 rfl
    rw [Definition.routed_self hall] at hput
    obtain ⟨hput, hr⟩ := hreturn.puts hgoes (hput.reads hspares.right.left hreads) hspares.right.right
    rw [hvalue, Definition.routed_append hall, List.foldl_append]
    exact ⟨hput, fun _ => hall, fun _ => hr.2 (List.forall_mem_singleton.2 hdeclared)⟩
  | dropped h hnone =>
    obtain ⟨es₁, v, _, rfl, hnamed, es₂, u, es₃, rfl, hreads, hothers, hleads⟩ := hgoes.of_append
    obtain ⟨hput, hr⟩ := h.puts hnamed hstands hspares.left
    have hall := hr.1 rfl
    have hreturned : facts.definition.routed (result.returned.toList.map (returnBinding, ·)) = [] := by
      rcases hnone with hnone | hnone
      · rw [hnone]
        rfl
      · cases result.returned with
        | none => rfl
        | some value => exact Definition.routed_cons_undeclared hnone
    rw [Definition.routed_self hall] at hput
    rw [Definition.routed_append hall, hreturned, List.append_nil]
    exact ⟨(hput.reads hspares.right.left hreads).others hspares.right.right hothers hleads, hr⟩

/-- A result is only stored in a context that is executing. -/
theorem stands_of_stored {result : HandlerResult} (hc : c < w.contexts.length) (hspares : Spares c es)
    (h : Stage.Run p c (.stores result (.ok ())) w es w') :
    ∃ os, Stands (w.context c).facts.definition c os w' := by
  obtain ⟨es₁, es', checked, v, rfl, hchecked, run⟩ := Job.Run.op_inv h
  cases checked with
  | error e => cases run.2.2
  | ok =>
    obtain ⟨es₂, es₃, _, u, rfl, hput, hothers, hleads, -⟩ := Job.Run.op_inv run
    obtain ⟨es₄, x, rfl, -, hleads₄, hstate, rfl⟩ := hchecked
    obtain ⟨hx, hfacts⟩ := hleads₄.facts hc
    have hstands : Stands (w.context c).facts.definition c (x.context c).outputs x :=
      ⟨hx, checkExecuting_eq_ok.1 hstate.symm, congrArg _ hfacts, rfl⟩
    have hchecked : Stands (w.context c).facts.definition c (x.context c).outputs
        (World.perform (.onContext c .checkExecuting) x).2 := hstands.perform fun _ => trivial
    obtain ⟨y, hstands, -, rfl⟩ := hchecked.yields hspares.right.left hput
    have hstored : Stands (w.context c).facts.definition c (x.context c).outputs
        (World.perform (.onContext c (.putResult result)) y).2 := hstands.perform fun _ => trivial
    exact ⟨_, hstored.others hspares.right.right hothers hleads⟩

/-- What was stored is taken and routed, and then only last words follow. The outputs of the context are those it
had, with the entries of the result put over them up to the first that is not declared; the routing goes well just
when the named outputs are all declared. -/
inductive Fills (p : Pipeline) (c : ContextId) (facts : ContextFacts) (result : HandlerResult)
    (stages : List Stage) (w : World) (es : List Event) (w' : World) : Prop
  | intro {routes x leaves es₁ v es₂} (hstages : stages = .takes (some result) :: (routes ++ leaves))
      (hes : es = es₁ ++ es₂) (hleaves : ∀ s ∈ leaves, s.isLeave)
      (hroutes : RoutesResult facts (some result) routes x)
      (hrouted : x = .ok (.ok ()) ↔ ∀ o ∈ result.outputs, facts.definition.declaresOutput o.1 = true)
      (hgoes : Goes p c (.takes (some result) :: routes) w es₁ v)
      (houtputs : (v.context c).outputs =
        (facts.definition.routed result.entries).foldl facts.definition.setOutput (w.context c).outputs)
      (hlast : Goes p c leaves v es₂ w')

/-- What is taken is routed into the outputs of a context that is executing, if no other task touches them. -/
theorem fills_of_stands {routes leaves : List Stage} {result : HandlerResult}
    (hstands : Stands facts.definition c os w) (hspares : Spares c es)
    (hgoes : Goes p c (.takes (some result) :: (routes ++ leaves)) w es w')
    (hroutes : RoutesResult facts (some result) routes r) (hleaves : ∀ s ∈ leaves, s.isLeave) :
    Fills p c facts result (.takes (some result) :: (routes ++ leaves)) w es w' := by
  rw [← List.cons_append] at hgoes
  obtain ⟨es₁, v, es₂, rfl, ⟨es₃, u, es₄, rfl, htakes, hroute⟩, hlast⟩ := hgoes.of_append
  obtain ⟨x, hx, -, rfl⟩ := hstands.yields hspares.left.left htakes
  obtain ⟨hput, hrouted⟩ := hroutes.puts hroute (hx.perform fun _ => trivial) hspares.left.right
  refine .intro rfl rfl hleaves hroutes hrouted ⟨es₃, _, es₄, rfl, htakes, hroute⟩ ?_ hlast
  rw [hput.outputs, hstands.outputs]

end Pipeline

end FunctionWorker
