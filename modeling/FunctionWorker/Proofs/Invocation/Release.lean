/-
The release of an invocation. However it ends, its registration is taken out, its context is disposed
of with the scope that was opened for it, and what is asked of the context from then on is refused.
Other tasks may go on in the meantime, other invocations and calls on the same context among them. A
call that looked at the context in time may act on it too late, and what it brings about then is all
that stays.
-/
import FunctionWorker.Proofs.Invocation.Ownership
import FunctionWorker.Proofs.World.Remains
import FunctionWorker.Proofs.World.Turns

namespace FunctionWorker

variable {w w' x : World} {c : ContextId} {reg : Registration} {es all since live between closing late : List Event}
  {S : List ScopeId}

/-! ## What is left of a context -/

/-- Nothing is left of a context that was made before some events: at most one scope was opened for it,
which has been disposed of once, and it has no items. -/
structure Cleared (c : ContextId) (since : List Event) (w : World) : Prop extends Emptied c (opened c since) w where
  one : (opened c since).length ≤ 1

/-- A context that was made without a scope is disposed of by the task that made it: it is in use during
the events `live`, its scope is taken after `between`, and its items are let go after `closing`. -/
structure Ended (c : ContextId) (since live between closing late : List Event) (w : World) : Prop where
  events : ∃ x y z, (x.context c).state ≠ .disposed ∧
    since = live ++ ⟨true, .onContext c .markDisposed, x⟩ :: (between ++ ⟨true, .onContext c .takeScope, y⟩ ::
      (closing ++ ⟨true, .onContext c .clearItems, z⟩ :: late))
  remains : Remains c [] live between closing late w

theorem Ended.cleared_iff (h : Ended c since live between closing late w) :
    Cleared c since w ↔ Timely c closing late := by
  obtain ⟨⟨x, y, z, -, hsince⟩, hremains⟩ := h
  have hiff := hremains.emptied_iff
  have hopened := opened_cut hsince
  rw [List.nil_append, ← hopened] at hiff
  constructor
  · rintro ⟨hemptied, -⟩
    exact hiff.1 hemptied
  · intro htimely
    refine ⟨hiff.2 htimely, ?_⟩
    rw [hopened, opened_eq_nil htimely.scopes, List.append_nil]
    exact hremains.one

/-! ## Disposal -/

/-- Others free nothing that belongs to a context. -/
def Untouched (c : ContextId) (es : List Event) : Prop :=
  ∀ e ∈ es, e.mine = false → ¬ Frees c (opened c es) e.op

theorem Untouched.undisturbed (h : Untouched c all) (hsub : es ⊆ all) (hS : S ⊆ opened c all) :
    Undisturbed c S es := by
  intro e he hm hfrees
  exact absurd (hfrees.mono hS) (h e (hsub he) hm)

namespace Invoker

theorem Disposes.closed (h : Disposes c w es w') (hc : c < w.contexts.length) : Closed c w' := by
  have hmarked {es₁ : List Event} {first : Bool} {v : World}
      (marked : Op.Yields (.onContext c .markDisposed) w es₁ first v) : Closed c v := by
    obtain ⟨es₂, u, -, -, hleads, -, rfl⟩ := marked
    exact closed_marked (lt_of_lt_of_le hc (contexts_grow.leads hleads))
  cases h with
  | again marked => exact hmarked marked
  | withoutScope marked taken cleared => exact ((hmarked marked).leads taken.leads).leads cleared.leads
  | withScope marked taken disposed cleared =>
    exact (((hmarked marked).leads taken.leads).leads disposed.leads).leads cleared.leads

theorem Disposes.not_inserted (h : Disposes c w es w') : Own (· ≠ .insertRegistration reg) es := by
  cases h with
  | again marked => exact marked.own nofun
  | withoutScope marked taken cleared =>
    exact (marked.own nofun).append ((taken.own nofun).append (cleared.own nofun))
  | withScope marked taken disposed cleared =>
    exact (marked.own nofun).append ((taken.own nofun).append ((disposed.own nofun).append (cleared.own nofun)))

/-- A context that nobody else marks is disposed of by the invocation. -/
theorem Disposes.cut (h : Disposes c w es w') (hc : c < w.contexts.length) (hlive : (w.context c).state ≠ .disposed)
    (hes : ∀ e ∈ es, e.mine = false → e.op ≠ .onContext c .markDisposed) :
    ∃ before between closing after x y z, Cut c es before between closing after x y z := by
  cases h with
  | again marked =>
    obtain ⟨before, x, rfl, hbefore, hleads, hfirst, -⟩ := marked
    obtain ⟨-, hx⟩ := hleads.live hc hlive fun e he => hes e (List.mem_append_left _ he) (hbefore e he)
    cases hfirst.trans ((markDisposed_first (x.context c)).2 hx)
  | withoutScope marked taken cleared =>
    obtain ⟨before, x, rfl, hbefore, -, hfirst, -⟩ := marked
    obtain ⟨between, y, rfl, hbetween, -, hscope, -⟩ := taken
    obtain ⟨closing, z, rfl, hclosing, -⟩ := cleared
    have hlets : Lets (y.context c).scope closing := by
      rw [← show none = (y.context c).scope from hscope]
      exact hclosing
    refine ⟨before, between, closing, [], x, y, z, ?_, (markDisposed_first _).1 hfirst.symm, hbefore, hbetween, hlets,
      others_nil⟩
    simp only [List.append_assoc, List.singleton_append]
  | withScope marked taken disposed cleared =>
    rename_i s _ _ _
    obtain ⟨before, x, rfl, hbefore, -, hfirst, -⟩ := marked
    obtain ⟨between, y, rfl, hbetween, -, hscope, -⟩ := taken
    obtain ⟨es₃, v, rfl, hes₃, -⟩ := disposed
    obtain ⟨es₄, z, rfl, hes₄, -⟩ := cleared
    have hlets : Lets (y.context c).scope (es₃ ++ ⟨true, .disposeScope s, v⟩ :: es₄) := by
      rw [← show some s = (y.context c).scope from hscope]
      exact ⟨es₃, v, es₄, rfl, hes₃, hes₄⟩
    refine ⟨before, between, es₃ ++ ⟨true, .disposeScope s, v⟩ :: es₄, [], x, y, z, ?_,
      (markDisposed_first _).1 hfirst.symm, hbefore, hbetween, hlets, others_nil⟩
    simp only [List.append_assoc, List.cons_append, List.nil_append]

/-! ## Release -/

variable {v : Invoker} {request : InvocationRequest} {p : Passed}

theorem Releases.closed (h : Releases request p w es w') (hc : p.context < w.contexts.length) :
    Closed p.context w' := by
  obtain ⟨removed, disposes, others, leads⟩ := h
  exact (disposes.closed (lt_of_lt_of_le hc (contexts_grow.leads removed.leads))).leads leads

/-- The registration does not come back, since nobody else has its token. -/
theorem Releases.unregistered (h : Releases request p w es w')
    (hes : ∀ e ∈ es, e.mine = false → e.op ≠ .insertRegistration ⟨request.invocationId, p.token⟩) :
    ¬ w'.Registered ⟨request.invocationId, p.token⟩ := by
  obtain ⟨⟨es₀, u, rfl, -, -, -, rfl⟩, disposes, others, leads⟩ := h
  rename_i es₂ es₃ w₂
  refine (leads_append.2 ⟨_, disposes.leads, leads⟩).keeps (P := fun w => ¬ w.Registered _) (fun e he hb => ?_)
    (not_registered_remove _ u)
  refine not_registered_perform hb ?_
  cases hm : e.mine with
  | true => exact (disposes.not_inserted.append others.own) e he hm
  | false => exact hes e (List.mem_append_right _ he) hm

/-- The end of an invocation whose context has been held since it was made. -/
theorem Releases.ended {w₁ : World} (h : Releases request p w₁ es w') (hh : Holds p.context [] w)
    (hleads : Leads w live w₁) (hlive : Own (·.isRelease = false) live) (hall : Untouched p.context (live ++ es)) :
    ∃ live' between closing late, Ended p.context (live ++ es) live' between closing late w' := by
  obtain ⟨removed, disposes, others, leads⟩ := h
  rename_i es₁ es₂ es₃ w₂ w₃
  generalize heq : live ++ (es₁ ++ (es₂ ++ es₃)) = all at hall
  have hsub : live ++ es₁ ++ (es₂ ++ es₃) ⊆ all := by
    rw [← heq, List.append_assoc]
    exact List.Subset.refl _
  obtain ⟨hsub₁, hsub₂⟩ := List.append_subset.1 hsub
  -- up to the disposal nobody frees anything, the invocation itself included
  have hspares : ∀ e ∈ live ++ es₁, ¬ Frees p.context (opened p.context all) e.op := by
    have hown : Own (fun op => ¬ Frees p.context (opened p.context all) op) (live ++ es₁) :=
      (hlive.imp fun _ => not_frees).append (removed.own nofun)
    intro e he
    cases hm : e.mine with
    | true => exact hown e he hm
    | false => exact hall e (hsub₁ he) hm
  have hheld := hh.leads (leads_append.2 ⟨_, hleads, removed.leads⟩) hspares (opened_subset hsub₁)
  obtain ⟨before, between, closing, after, x, y, z, hcut⟩ := disposes.cut hheld.present hheld.live
    fun e he hm hmark => hall e (hsub₂ (List.mem_append_left _ he)) hm (hmark ▸ .marked)
  have hcut := hcut.append others
  have hundisturbed := hall.undisturbed hsub₂
    (List.append_subset.2 ⟨opened_subset hsub₁, opened_subset hsub₂⟩)
  have hremains := hcut.remains hheld (leads_append.2 ⟨_, disposes.leads, leads⟩) hundisturbed
  refine ⟨_, between, closing, after ++ es₃, ⟨x, y, z, hcut.live, ?_⟩, hremains.since⟩
  rw [← heq, ← List.append_assoc, hcut.events]
  simp only [List.append_assoc]

/-- How an invocation leaves the world behind. `es` are the events of its run. -/
structure Released (reg : Registration) (c : ContextId) (es : List Event) (w : World) : Prop
    extends Closed c w where
  unregistered : ¬ w.Registered reg
  /-- Entries of other registrations are left alone, but for an earlier one of the same id. -/
  others : ∀ e ∈ es, e.mine = true → ∀ r ≠ reg,
    (e.op = .insertRegistration reg → r.invocationId ≠ reg.invocationId) →
    (e.after.Registered r ↔ e.before.Registered r)
  refused : ∀ later u, Leads w later u → Refused c u

/-- An invocation that others leave alone releases what it has drawn. -/
theorem Made.released {before live es₂ es₃ : List Event} {u w₁ : World} {ending : Ending} {signalled : Bool}
    (made : Made request p before u live w) (settles : Settles v p w es₂ ending signalled w₁)
    (releases : Releases request p w₁ es₃ w')
    (hapart : ∀ e ∈ live ++ (es₂ ++ es₃), e.mine = false →
      ¬ Frees p.context (opened p.context (live ++ (es₂ ++ es₃))) e.op ∧
      e.op ≠ .insertRegistration ⟨request.invocationId, p.token⟩) :
    Released ⟨request.invocationId, p.token⟩ p.context
      (before ++ ⟨true, .newContext (request.factsFor p.definition p.token), u⟩ :: (live ++ (es₂ ++ es₃))) w' ∧
    ∃ live' between closing late, Ended p.context (live ++ (es₂ ++ es₃)) live' between closing late w' := by
  have hleads := leads_append.2 ⟨_, made.leads, settles.leads⟩
  have hpresent : p.context < w₁.contexts.length := lt_of_lt_of_le made.holds.present (contexts_grow.leads hleads)
  have hclosed := releases.closed hpresent
  have howns := (made.holder settles releases).owns
  refine ⟨⟨hclosed, releases.unregistered fun e he hm => ?_, fun e he hm r hr hid => ?_, fun later u hlater => ?_⟩,
    ?_⟩
  · exact (hapart e (List.mem_append_right _ (List.mem_append_right _ he)) hm).2
  · exact (howns e he hm).registered hr hid e.before
  · exact (hclosed.leads hlater).refused
  · have huntouched : Untouched p.context (live ++ (es₂ ++ es₃)) := fun e he hm => (hapart e he hm).1
    rw [← List.append_assoc] at huntouched ⊢
    exact releases.ended made.holds hleads (made.modest.append settles.modest) huntouched

/-- Whatever comes of it, and whatever goes on besides, an invocation of a function that was loaded when
it was looked for releases all that it holds, and nothing else. The context is `c`, made in the world
`u`, and `since` is what has happened from then on. Nothing is left of the context exactly if no call
acted too late: none asked for its scope when that had been taken, and none set an item when those had
been let go. -/
theorem invoke_releases {history : List Deed} {t : Nat} {d : Definition} {r : Except Panic InvocationResponse}
    (crowd : Crowd w history) (run : Job.Run (v.invoke request) w (view t history) r w')
    (found : ⟨true, .findFunction request.functionId, x⟩ ∈ view t history)
    (loaded : x.functions.find? request.functionId = some d) :
    ∃ token c before u since live between closing late,
      view t history = before ++ ⟨true, .newContext (request.factsFor d token), u⟩ :: since ∧
      c = u.contexts.length ∧
      (∃ y, ⟨true, .insertRegistration ⟨request.invocationId, token⟩, y⟩ ∈ before) ∧
      Released ⟨request.invocationId, token⟩ c (view t history) w' ∧
      Ended c since live between closing late w' ∧
      (Cleared c since w' ↔ Timely c closing late) := by
  obtain ⟨course, takes, -⟩ := invoke_takes run
  have hapart : ∀ {reg c}, Holder reg c (view t history) → ∀ e ∈ view t history, e.mine = false →
      ¬ Frees c (opened c (view t history)) e.op ∧ e.op ≠ .insertRegistration reg := fun holder e =>
    crowd.apart holder
  have hleads := run.leads
  generalize view t history = es at hapart hleads found takes ⊢
  cases takes with
  | unknown found' others leads =>
    rcases List.mem_append.1 found with hx | hx
    · have hnone : none = x.functions.find? request.functionId := found'.answered hx
      rw [loaded] at hnone
      cases hnone
    · cases others _ hx
  | loaded passes settles releases =>
    rename_i es₁ es₂ es₃ p ending signalled w₁ w₂
    have hd : p.definition = d := by
      obtain ⟨es₀, es', w₀, rfl, found'⟩ := passes.found
      rw [List.append_assoc] at hleads found
      exact found_spec hleads found' found loaded
    obtain ⟨before, u, live, rfl, made⟩ := passes.made
    rw [List.append_assoc, List.cons_append] at hapart ⊢
    have hsub : live ++ (es₂ ++ es₃) ⊆
        before ++ ⟨true, .newContext (request.factsFor p.definition p.token), u⟩ :: (live ++ (es₂ ++ es₃)) :=
      fun e he => List.mem_append_right _ (List.mem_cons_of_mem _ he)
    obtain ⟨hreleased, live', between, closing, late, hended⟩ := made.released settles releases fun e he hm => by
      obtain ⟨hfrees, hinserted⟩ := hapart (made.holder settles releases) e (hsub he) hm
      exact ⟨fun hf => hfrees (hf.mono (opened_subset hsub)), hinserted⟩
    exact ⟨p.token, p.context, before, u, live ++ (es₂ ++ es₃), live', between, closing, late, by rw [hd], made.context,
      made.registered, hreleased, hended, hended.cleared_iff⟩

/-! ## Two schedules -/

/-- An invoker whose middleware keeps the context, opens a scope, sets an item and panics. -/
def panicker : Invoker where
  pipeline :=
    { handlers := fun _ _ => .done (.ok {})
      middleware := [fun c _ => do
        Code.ask (.note (.kept "context" c))
        let _ : Except ContextError (Except Panic (Option ServiceInstance)) ← Code.ask (.service c "clock")
        let _ : Except ContextError Unit ← Code.ask (.setItem c "step" (.text "1"))
        .panic (.text "boom")] }

def panickerRequest : InvocationRequest where
  invocationId := "i"
  functionId := "f"

/-- A world in which one function is loaded and another invocation is in flight. -/
def panickerWorld : World where
  functions := ⟨[{ id := "f", name := "work", entryPoint := "work", handler := 0 }]⟩
  cancellations := ⟨[("j", 0)], [false]⟩

/-- What the invocation and two calls on its context come to. -/
def PanickerResult : Nat → Type
  | 0 => InvocationResponse
  | 1 => Except ContextError ScopeId
  | 2 => Except ContextError Unit
  | _ => Unit

/-- The invocation, and two calls on the context that its middleware has kept. -/
def panickerTasks : (t : Nat) → Job (PanickerResult t)
  | 0 => panicker.invoke panickerRequest
  | 1 => Job.openServices 0
  | 2 => Job.setItem 0 "step" (.text "2")
  | _ + 3 => .done ()

/-- Both calls look at the context when it is executing. The one acts when it has just been marked, the other
when its scope has just been taken. -/
def timelyTurns : List Nat := List.replicate 12 0 ++ [1, 2] ++ List.replicate 5 0 ++ [1, 0, 2, 0, 0]

/-- The same, only that the one call acts when the scope has just been taken, and the other when the items have
just been let go. -/
def lateTurns : List Nat := List.replicate 12 0 ++ [1, 2] ++ List.replicate 6 0 ++ [1, 0, 0, 2]

/-- What comes of the invocation and the two calls. -/
abbrev panickerPlay (turns : List Nat) : List Deed × ((t : Nat) → Job (PanickerResult t)) × World :=
  play panickerTasks panickerWorld turns

/-- The invocation runs to its end, and so do the two calls on its context, which are not refused. -/
structure PanickerPlayed (turns : List Nat) (s : ScopeId) : Prop where
  crowd : Crowd panickerWorld (panickerPlay turns).1
  invoked : Job.Run (panicker.invoke panickerRequest) panickerWorld (view 0 (panickerPlay turns).1)
    (.ok (refusal panickerRequest { typeName := "panic", message := "boom", isUser := true })) (panickerPlay turns).2.2
  opened : Job.Run (Job.openServices 0) panickerWorld (view 1 (panickerPlay turns).1) (.ok (.ok s))
    (panickerPlay turns).2.2
  set : Job.Run (Job.setItem 0 "step" (.text "2")) panickerWorld (view 2 (panickerPlay turns).1) (.ok (.ok ()))
    (panickerPlay turns).2.2

theorem panicker_played {turns : List Nat} {s : ScopeId}
    (hinvoked : Job.result? (α := InvocationResponse) ((panickerPlay turns).2.1 0) =
      some (.ok (refusal panickerRequest { typeName := "panic", message := "boom", isUser := true })))
    (hopened : Job.result? (α := Except ContextError ScopeId) ((panickerPlay turns).2.1 1) = some (.ok (.ok s)))
    (hset : Job.result? (α := Except ContextError Unit) ((panickerPlay turns).2.1 2) = some (.ok (.ok ())))
    (htasks : ∀ d ∈ (panickerPlay turns).1, d.task < 3) : PanickerPlayed turns s := by
  have invoked : Job.Run (panicker.invoke panickerRequest) panickerWorld _ _ _ := run_play panickerTasks 0 hinvoked
  have opened : Job.Run (Job.openServices 0) panickerWorld _ _ _ := run_play panickerTasks 1 hopened
  have set : Job.Run (Job.setItem 0 "step" (.text "2")) panickerWorld _ _ _ := run_play panickerTasks 2 hset
  refine ⟨fun t => ?_, invoked, opened, set⟩
  match t with
  | 0 => exact .inr ⟨panicker, panickerRequest, invoked.begins⟩
  | 1 => exact .inl (opened.own (Job.openServices_uses 0).modest)
  | 2 => exact .inl (set.own (Job.setItem_uses 0 _ _).modest)
  | t + 3 => exact .inl (others_of_tasks htasks (by omega)).own

/-- Both calls act in time, and nothing is left of the context. -/
theorem invoke_releases_panicker :
    PanickerPlayed timelyTurns 0 ∧
    (∃ x, ⟨true, .findFunction panickerRequest.functionId, x⟩ ∈ view 0 (panickerPlay timelyTurns).1 ∧
      x.functions.find? panickerRequest.functionId =
        some { id := "f", name := "work", entryPoint := "work", handler := 0 }) ∧
    ∃ token since live between closing late,
      Released ⟨"i", token⟩ 0 (view 0 (panickerPlay timelyTurns).1) (panickerPlay timelyTurns).2.2 ∧
      Ended 0 since live between closing late (panickerPlay timelyTurns).2.2 ∧ Timely 0 closing late ∧
      Cleared 0 since (panickerPlay timelyTurns).2.2 ∧ opened 0 (view 0 (panickerPlay timelyTurns).1) = [0] ∧
      ("j", 0) ∈ (panickerPlay timelyTurns).2.2.cancellations.entries := by
  have played : PanickerPlayed timelyTurns 0 :=
    panicker_played (by decide +kernel) (by decide +kernel) (by decide +kernel) (by decide +kernel)
  obtain ⟨x, hfound, hloaded⟩ := invoke_looks played.invoked rfl
  obtain ⟨token, c, before, u, since, live, between, closing, late, hview, -, -, hreleased, hended, hiff⟩ :=
    invoke_releases played.crowd played.invoked hfound hloaded
  -- there is but one context, and but one scope
  have hcontexts : (panickerPlay timelyTurns).2.2.contexts.length = 1 := by decide +kernel
  obtain rfl : c = 0 := Nat.lt_one_iff.1 (hcontexts ▸ hreleased.present)
  have hopened : opened 0 (view 0 (panickerPlay timelyTurns).1) = [0] := by decide +kernel
  have hsub : (opened 0 since).Sublist [0] := by
    rw [← hopened, hview]
    exact ((List.sublist_cons_self ..).trans (List.sublist_append_right ..)).filterMap _
  have hdisposed : (panickerPlay timelyTurns).2.2.disposals? 0 = some 1 := by decide +kernel
  have hcleared : Cleared 0 since (panickerPlay timelyTurns).2.2 := by
    refine ⟨⟨fun s hs => ?_, rfl⟩, hsub.length_le⟩
    obtain rfl := List.mem_singleton.1 (hsub.subset hs)
    exact hdisposed
  exact ⟨played, ⟨x, hfound, hloaded⟩, token, since, live, between, closing, late, hreleased, hended,
    hiff.1 hcleared, hcleared, hopened, by decide +kernel⟩

/-- Both calls act too late. Two scopes have been opened for the context, one of which is not disposed of, and
an item is there. -/
theorem invoke_misses :
    PanickerPlayed lateTurns 1 ∧ opened 0 (view 0 (panickerPlay lateTurns).1) = [0, 1] ∧
      ((panickerPlay lateTurns).2.2.context 0).state = .disposed ∧
      (panickerPlay lateTurns).2.2.disposals? 0 = some 1 ∧ (panickerPlay lateTurns).2.2.disposals? 1 = some 0 ∧
      ((panickerPlay lateTurns).2.2.context 0).items = [("step", .text "2")] :=
  ⟨panicker_played (by decide +kernel) (by decide +kernel) (by decide +kernel) (by decide +kernel),
    by decide +kernel, by decide +kernel, by decide +kernel, by decide +kernel, rfl⟩

end Invoker

end FunctionWorker
