/-
Outputs from the calls that set them to what an invocation returns. Every call finds its name among the
declared ones whatever its case, so that a context holds at most one value under each of them, and what is
collected depends only on which value was set last.
-/
import FunctionWorker.Proofs.Invocation.Collection
import FunctionWorker.Proofs.World.Contexts
import FunctionWorker.Proofs.World.Standing

namespace FunctionWorker

/-! ## Outputs that are set -/

/-- The value of the last call whose name is the same. -/
def lastSet (calls : List (String × OutputValue)) (name : String) : Option OutputValue :=
  Text.lookup calls.reverse name

theorem lastSet_concat (calls : List (String × OutputValue)) (call : String × OutputValue) (name : String) :
    lastSet (calls ++ [call]) name = if Text.sameName call.1 name then some call.2 else lastSet calls name := by
  rw [lastSet, List.reverse_concat, Text.lookup_cons, lastSet]

namespace Definition

variable {d : Definition} {name declared : String} {calls : List (String × OutputValue)}
  {os : List (String × OutputValue)}

/-- The calls that are accepted: those for declared outputs. -/
def accepted (d : Definition) (calls : List (String × OutputValue)) : List (String × OutputValue) :=
  calls.filter fun call => d.declaresOutput call.1

/-- How a call is answered. -/
def answer (d : Definition) (call : String × OutputValue) : Except ContextError Unit :=
  if d.declaresOutput call.1 then .ok () else .error (.undeclaredOutput call.1)

theorem answer_eq_ok {call : String × OutputValue} : d.answer call = .ok () ↔ d.declaresOutput call.1 = true := by
  unfold answer
  split <;> simp [*]

/-- The outputs that were set, each under the first spelling that is declared for it and with the value that
was set last. -/
def received (d : Definition) (calls : List (String × OutputValue)) : List (String × OutputValue) :=
  SerializedOutputs.entriesOf d.outputs (lastSet (d.accepted calls))

/-- The outputs of a context after a call. -/
def setOutput (d : Definition) (os : List (String × OutputValue)) (call : String × OutputValue) :
    List (String × OutputValue) :=
  match d.outputName call.1 with
  | some declared => Entries.put declared call.2 os
  | none => os

theorem setOutput_declared (h : d.outputName name = some declared)
    (os : List (String × OutputValue)) (value : OutputValue) :
    d.setOutput os (name, value) = Entries.put declared value os := by
  rw [setOutput, h]

theorem setOutput_undeclared (h : d.outputName name = none) (os : List (String × OutputValue))
    (value : OutputValue) : d.setOutput os (name, value) = os := by
  rw [setOutput, h]

theorem outputName_congr {a b : String} (h : Text.sameName a b = true) : d.outputName a = d.outputName b := by
  unfold outputName
  simp only [Text.sameName_congr h]

/-- The declared spelling of a name is the same name, and its own declared spelling. -/
theorem outputName_some (h : d.outputName name = some declared) :
    Text.sameName declared name = true ∧ d.outputName declared = some declared := by
  have hsame : Text.sameName declared name = true := List.find?_some (p := (Text.sameName · name)) h
  exact ⟨hsame, (outputName_congr hsame).trans h⟩

/-- The outputs of a context after some calls: at most one under each declared name, and the one that was set
last. -/
structure Holds (d : Definition) (os calls : List (String × OutputValue)) : Prop where
  declared : ∀ e ∈ os, d.outputName e.1 = some e.1
  keys : (os.map Prod.fst).Nodup
  last : ∀ name, Text.lookup os name = lastSet (d.accepted calls) name

theorem Holds.nil (d : Definition) : d.Holds [] [] :=
  ⟨fun _ h => absurd h List.not_mem_nil, List.nodup_nil, fun _ => rfl⟩

/-- Declared spellings that are the same are equal. -/
theorem distinct_of_declared (hdeclared : ∀ e ∈ os, d.outputName e.1 = some e.1)
    (hkeys : (os.map Prod.fst).Nodup) : Text.Distinct os := by
  refine (List.pairwise_map.1 hkeys).imp_of_mem fun {x y} hx hy hne => ?_
  by_contra hsame
  have hnames := outputName_congr (d := d) (Bool.not_eq_false _ ▸ hsame)
  rw [hdeclared x hx, hdeclared y hy] at hnames
  exact hne (Option.some.inj hnames)

theorem Holds.distinct (h : d.Holds os calls) : Text.Distinct os := distinct_of_declared h.declared h.keys

/-- A call that is accepted replaces the value of its output, and any other leaves all as they are. -/
theorem Holds.setOutput (h : d.Holds os calls) (call : String × OutputValue) :
    d.Holds (d.setOutput os call) (calls ++ [call]) := by
  unfold Definition.setOutput
  cases hname : d.outputName call.1 with
  | none =>
    have haccepted : d.accepted (calls ++ [call]) = d.accepted calls := by
      simp [accepted, List.filter_append, declaresOutput, hname]
    exact ⟨h.declared, h.keys, fun name => haccepted ▸ h.last name⟩
  | some declared =>
    obtain ⟨hsame, hself⟩ := outputName_some hname
    have haccepted : d.accepted (calls ++ [call]) = d.accepted calls ++ [call] := by
      simp [accepted, List.filter_append, declaresOutput, hname]
    have hdeclared : ∀ e ∈ Entries.put declared call.2 os, d.outputName e.1 = some e.1 := by
      intro e he
      rcases Entries.mem_of_mem_put he with rfl | he
      · exact hself
      · exact h.declared e he
    have hkeys : ((Entries.put declared call.2 os).map Prod.fst).Nodup := Entries.nodup_put h.keys
    refine ⟨hdeclared, hkeys, fun name => ?_⟩
    rw [haccepted, lastSet_concat, ← h.last]
    have hd := distinct_of_declared hdeclared hkeys
    by_cases hcall : Text.sameName call.1 name = true
    · rw [if_pos hcall, Text.lookup_eq_some_iff hd]
      exact ⟨declared, Entries.mem_put_self os, Text.sameName_trans hsame hcall⟩
    · -- an entry under another name is the same before and after
      rw [if_neg hcall]
      apply Option.ext
      intro v
      rw [Text.lookup_eq_some_iff hd, Text.lookup_eq_some_iff h.distinct]
      have hne : ∀ key, Text.sameName key name = true → key ≠ declared := by
        rintro key hkey rfl
        exact hcall (Text.sameName_trans (Text.sameName_comm .. ▸ hsame) hkey)
      constructor
      · rintro ⟨key, hmem, hkey⟩
        exact ⟨key, (Entries.mem_put_of_ne (hne key hkey)).1 hmem, hkey⟩
      · rintro ⟨key, hmem, hkey⟩
        exact ⟨key, (Entries.mem_put_of_ne (hne key hkey)).2 hmem, hkey⟩

theorem holds_foldl (d : Definition) (calls : List (String × OutputValue)) :
    d.Holds (calls.foldl d.setOutput []) calls := by
  induction calls using List.reverseRecOn with
  | nil => exact .nil d
  | append_singleton calls call ih =>
    rw [List.foldl_append]
    exact ih.setOutput call

end Definition

/-! ## Calls on a context -/

/-- A step that leaves an executing context executing, and its outputs alone. -/
def ContextStep.LeavesOutputs : ContextStep → Prop
  | .complete | .fault | .markDisposed | .putOutput _ _ | .takeOutputs => False
  | _ => True

/-- An operation that leaves an executing context executing, and its outputs alone. -/
def Op.LeavesOutputs (c : ContextId) : Op → Prop
  | .onContext c' s => c' = c → s.LeavesOutputs
  | _ => True

/-- A context of a definition that is executing and has some outputs. -/
structure Stands (d : Definition) (c : ContextId) (os : List (String × OutputValue)) (w : World) : Prop where
  known : c < w.contexts.length
  executing : (w.context c).state = .executing
  definition : (w.context c).facts.definition = d
  outputs : (w.context c).outputs = os

variable {d : Definition} {c : ContextId} {os : List (String × OutputValue)} {w w' : World} {es : List Event}
  {op : Op}

theorem Stands.perform (h : Stands d c os w) (hop : op.LeavesOutputs c) :
    Stands d c os (World.perform op w).2 := by
  have hkeeps : (op.actOn w c (w.context c)).state = .executing ∧
      (op.actOn w c (w.context c)).facts.definition = d ∧ (op.actOn w c (w.context c)).outputs = os := by
    refine actOn_keeps (Q := fun x => x.state = .executing ∧ x.facts.definition = d ∧ x.outputs = os) ?_ ?_
      ⟨h.executing, h.definition, h.outputs⟩
    · rintro s rfl
      have hs : s.LeavesOutputs := hop rfl
      have hsame : (s.perform (w.context c)).2.state = (w.context c).state ∧
          (s.perform (w.context c)).2.facts = (w.context c).facts ∧
          (s.perform (w.context c)).2.outputs = (w.context c).outputs := by
        cases s with
        | complete | fault | markDisposed | putOutput _ _ | takeOutputs => cases hs
        | begin =>
          -- a context that is executing does not begin again
          rcases move_cases [.created] .executing (w.context c) with hmove | ⟨hmem, -⟩
          · exact ⟨congrArg _ hmove, congrArg _ hmove, congrArg _ hmove⟩
          · rw [h.executing] at hmem
            exact absurd hmem (by decide)
        | _ => exact ⟨rfl, rfl, rfl⟩
      rw [hsame.1, hsame.2.1, hsame.2.2]
      exact ⟨h.executing, h.definition, h.outputs⟩
    · rintro s rfl -
      exact ⟨h.executing, h.definition, h.outputs⟩
  rw [← context_perform op h.known] at hkeeps
  exact ⟨h.known.trans_le (length_le_perform op w), hkeeps.1, hkeeps.2.1, hkeeps.2.2⟩

/-- Events of other tasks that leave the outputs of a context alone. -/
def Spares (c : ContextId) (es : List Event) : Prop := ∀ e ∈ es, e.mine = false → e.op.LeavesOutputs c

theorem Spares.left {es₁ es₂ : List Event} (h : Spares c (es₁ ++ es₂)) : Spares c es₁ := fun e he =>
  h e (List.mem_append_left _ he)

theorem Spares.right {es₁ es₂ : List Event} (h : Spares c (es₁ ++ es₂)) : Spares c es₂ := fun e he =>
  h e (List.mem_append_right _ he)

theorem spares_of_mine (h : ∀ e ∈ es, e.mine = true) : Spares c es := by
  intro e he hother
  rw [h e he] at hother
  cases hother

theorem Stands.others (h : Stands d c os w) (hspares : Spares c es) (hothers : Others es)
    (hleads : Leads w es w') : Stands d c os w' :=
  hleads.keeps (fun e he hbefore => hbefore.perform (hspares e he (hothers e he))) h

/-- An operation finds the context as it was. -/
theorem Stands.yields (h : Stands d c os w) {a : op.Reply} (hspares : Spares c es) (hy : op.Yields w es a w') :
    ∃ v, Stands d c os v ∧ a = (World.perform op v).1 ∧ w' = (World.perform op v).2 := by
  obtain ⟨es₁, v, rfl, hothers, hleads, ha, hw'⟩ := hy
  exact ⟨v, h.others hspares.left hothers hleads, ha, hw'⟩

/-- The steps by which a call looks at a context before it sets an output. -/
def Op.Looks (c : ContextId) (op : Op) : Prop := op = .onContext c .checkExecuting ∨ op = .onContext c .facts

/-- A call that sets an output is answered by its name, and does what it says. One that is refused only looks
at the context. -/
theorem Stands.setOutput (h : Stands d c os w) (hspares : Spares c es) {name : String} {value : OutputValue}
    {r : Except Panic (Except ContextError Unit)} (run : Job.Run (Job.setOutput c name value) w es r w') :
    r = .ok (d.answer (name, value)) ∧ Stands d c (d.setOutput os (name, value)) w' ∧
      (d.outputName name = none → Own (Op.Looks c) es) := by
  obtain ⟨es₁, es', checked, w₁, rfl, hcheck, run⟩ := Job.Run.op_inv run
  obtain ⟨v₁, h₁, rfl, rfl⟩ := h.yields hspares.left hcheck
  have hchecked : (World.perform (.onContext c .checkExecuting) v₁).1 = .ok () := by
    show (v₁.context c).checkExecuting = .ok ()
    unfold Context.checkExecuting
    rw [h₁.executing]
  rw [hchecked] at run
  obtain ⟨es₂, es', facts, w₂, rfl, hfacts, run⟩ := Job.Run.op_inv run
  have h₁' : Stands d c os (World.perform (.onContext c .checkExecuting) v₁).2 := h₁.perform fun _ => trivial
  obtain ⟨v₂, h₂, hanswer, rfl⟩ := h₁'.yields hspares.right.left hfacts
  have hdefinition : facts.definition = d := by
    rw [hanswer]
    exact h₂.definition
  have h₂' : Stands d c os (World.perform (.onContext c .facts) v₂).2 := h₂.perform fun _ => trivial
  rw [hdefinition] at run
  unfold Definition.answer Definition.setOutput Definition.declaresOutput
  cases hname : d.outputName name with
  | none =>
    rw [hname] at run
    obtain ⟨hothers, hleads, rfl⟩ := run
    refine ⟨rfl, h₂'.others hspares.right.right hothers hleads, fun _ => ?_⟩
    exact (hcheck.own (.inl rfl)).append ((hfacts.own (.inr rfl)).append hothers.own)
  | some declared =>
    rw [hname] at run
    obtain ⟨es₃, es₄, u, w₃, rfl, hput, hothers, hleads, rfl⟩ := Job.Run.op_inv run
    obtain ⟨v₃, h₃, -, rfl⟩ := h₂'.yields hspares.right.right.left hput
    refine ⟨rfl, Stands.others ?_ hspares.right.right.right hothers hleads, nofun⟩
    have hcontext := context_step (.putOutput declared value) h₃.known
    refine ⟨h₃.known.trans_le (length_le_perform _ _), ?_, ?_, ?_⟩
    · rw [hcontext]
      exact h₃.executing
    · rw [hcontext]
      exact h₃.definition
    · rw [hcontext]
      exact congrArg (Entries.put declared value) h₃.outputs

/-- Looking at a context changes nothing. -/
theorem Op.Looks.perform (h : op.Looks c) (hc : c < w.contexts.length) : (World.perform op w).2 = w := by
  have hset : w.contexts.set c (w.context c) = w.contexts := by
    unfold World.context
    rw [List.getD_eq_getElem?_getD, List.getElem?_eq_getElem hc, Option.getD_some, List.set_getElem_self]
  rcases h with rfl | rfl <;> exact congrArg (fun contexts => { w with contexts }) hset

namespace Job

/-- Sets outputs one after another, whatever is answered. -/
def setOutputs (c : ContextId) : List (String × OutputValue) → Job (List (Except ContextError Unit))
  | [] => return []
  | (name, value) :: calls => do
    let answer ← setOutput c name value
    let answers ← setOutputs c calls
    return answer :: answers

/-- Sets outputs one after another and takes what there is then. -/
def produce (c : ContextId) (calls : List (String × OutputValue)) :
    Job (List (Except ContextError Unit) × List (String × OutputValue)) := do
  let answers ← setOutputs c calls
  let produced : List (String × OutputValue) ← onContext c .takeOutputs
  return (answers, produced)

end Job

/-- Calls are answered one by one, and their outputs are set one after another. -/
theorem Stands.setOutputs : ∀ {calls os es w w'} {r : Except Panic (List (Except ContextError Unit))},
    Stands d c os w → Spares c es → Job.Run (Job.setOutputs c calls) w es r w' →
      r = .ok (calls.map d.answer) ∧ Stands d c (calls.foldl d.setOutput os) w'
  | [], _, _, _, _, _, h, hspares, run => ⟨run.2.2, h.others hspares run.1 run.2.1⟩
  | (name, value) :: calls, _, _, _, _, _, h, hspares, run => by
    rcases Job.Run.bind_inv run with ⟨answer, es₁, es', v, rfl, hcall, run⟩ | ⟨p, rfl, hcall⟩
    · obtain ⟨hanswer, h₁, -⟩ := h.setOutput hspares.left hcall
      cases hanswer
      rcases Job.Run.bind_inv run with
        ⟨answers, es₂, es₃, v', rfl, hcalls, hothers, hleads, rfl⟩ | ⟨p, rfl, hcalls⟩
      · obtain ⟨hanswers, h₂⟩ := h₁.setOutputs hspares.right.left hcalls
        cases hanswers
        exact ⟨rfl, h₂.others hspares.right.right hothers hleads⟩
      · obtain ⟨hanswers, -⟩ := h₁.setOutputs hspares.right hcalls
        cases hanswers
    · obtain ⟨hanswer, -⟩ := h.setOutput hspares hcall
      cases hanswer

/-- A result of calls that set outputs of an executing context, none of which was set before, while other
tasks leave them alone. -/
inductive Produces (d : Definition) (calls : List (String × OutputValue))
    (r : Except Panic (List (Except ContextError Unit) × List (String × OutputValue))) : Prop
  | intro {c : ContextId} {w w' : World} {es : List Event} (stands : Stands d c [] w) (spares : Spares c es)
      (run : Job.Run (Job.produce c calls) w es r w') : Produces d calls r

/-- Calls never panic; what they leave are the outputs that they set. -/
theorem Produces.eq {calls : List (String × OutputValue)}
    {r : Except Panic (List (Except ContextError Unit) × List (String × OutputValue))} (h : Produces d calls r) :
    r = .ok (calls.map d.answer, calls.foldl d.setOutput []) := by
  obtain @⟨c, w, w', es, hstands, hspares, run⟩ := h
  rcases Job.Run.bind_inv run with ⟨answers, es₁, es', v, rfl, hcalls, run⟩ | ⟨p, rfl, hcalls⟩
  · obtain ⟨hanswers, h₁⟩ := hstands.setOutputs hspares.left hcalls
    cases hanswers
    obtain ⟨es₂, es₃, produced, v', rfl, htake, -, -, rfl⟩ := Job.Run.op_inv run
    obtain ⟨u, h₂, rfl, -⟩ := h₁.yields hspares.right.left htake
    have houtputs : (World.perform (.onContext c .takeOutputs) u).1 = calls.foldl d.setOutput [] := h₂.outputs
    rw [houtputs]
  · obtain ⟨hanswers, -⟩ := hstands.setOutputs hspares hcalls
    cases hanswers

/-! ## What is collected -/

/-- What collection makes of the values that were received under declared names. -/
structure Collects (serializers : List Serializer) (received : List (String × OutputValue))
    (r : Except Panic SerializedOutputs) : Prop where
  succeeds : (∀ e ∈ received, ∀ p, ¬ Serializer.Spoils serializers e.2 p) → ∃ s, r = .ok s
  gathers : ∀ s, r = .ok s → SerializedOutputs.Gathers serializers received s
  panics : ∀ p, r = .error p ↔
    ComesTo (fun e => ∃ w, Serializer.Writes serializers e.2 w) (fun e => Serializer.Spoils serializers e.2 p)
      received

theorem addAll_collects {serializers : List Serializer} {entries : List (String × OutputValue)}
    (hd : Text.Distinct entries) :
    Collects serializers entries (SerializedOutputs.addAll serializers {} entries) where
  succeeds := by
    intro hwritten
    cases hadd : SerializedOutputs.addAll serializers {} entries with
    | ok s => exact ⟨s, rfl⟩
    | error p =>
      obtain ⟨before, e, after, rfl, -, hspoils⟩ := SerializedOutputs.addAll_error_iff.1 hadd
      exact absurd hspoils (hwritten e (by simp) p)
  gathers := fun _ => SerializedOutputs.addAll_gathers hd
  panics := fun _ => SerializedOutputs.addAll_error_iff

/-- What is left by calls is collected as if each declared output had only been set once, with the value that
was set last. -/
theorem collect_foldl (d : Definition) (serializers : List Serializer) (calls : List (String × OutputValue)) :
    SerializedOutputs.collect serializers d.outputs (calls.foldl d.setOutput []) =
      SerializedOutputs.addAll serializers {} (d.received calls) := by
  have hholds := d.holds_foldl calls
  rw [SerializedOutputs.collect_eq serializers d.outputs hholds.distinct, funext hholds.last]
  rfl

/-- Whatever outputs are set on an executing context, in whatever case and order, every call is answered by
whether its name is declared. Collection then returns the value that was last set under each declared name,
in the order of declaration and under its first spelling, `$return` apart from the others. It depends on
nothing but these values, and a call under a name that is not declared changes nothing. -/
theorem collect_produced (d : Definition) (serializers : List Serializer) :
    (∀ calls r, Produces d calls r → ∃ produced, r = .ok (calls.map d.answer, produced) ∧
      Collects serializers (d.received calls) (SerializedOutputs.collect serializers d.outputs produced)) ∧
    (∀ calls calls' answers answers' produced produced', Produces d calls (.ok (answers, produced)) →
      Produces d calls' (.ok (answers', produced')) →
      (∀ name ∈ d.outputs, lastSet (d.accepted calls) name = lastSet (d.accepted calls') name) →
      SerializedOutputs.collect serializers d.outputs produced =
        SerializedOutputs.collect serializers d.outputs produced') ∧
    (∀ c os name value w es r w', d.outputName name = none → Stands d c os w → Spares c es →
      Job.Run (Job.setOutput c name value) w es r w' →
      r = .ok (.error (.undeclaredOutput name)) ∧ ∀ e ∈ es, e.mine = true → e.after = e.before) := by
  refine ⟨?_, ?_, ?_⟩
  · intro calls r h
    refine ⟨_, h.eq, ?_⟩
    rw [collect_foldl]
    exact addAll_collects (SerializedOutputs.entriesOf_distinct ..)
  · intro calls calls' answers answers' produced produced' h h' hlast
    obtain ⟨-, rfl⟩ := Prod.mk.inj (Except.ok.inj h.eq)
    obtain ⟨-, rfl⟩ := Prod.mk.inj (Except.ok.inj h'.eq)
    have hreceived : d.received calls = d.received calls' := by
      refine List.filterMap_congr fun name hname => ?_
      rw [hlast name ((Text.firsts_sublist d.outputs).subset hname)]
    rw [collect_foldl, collect_foldl, hreceived]
  · intro c os name value w es r w' hname hstands hspares run
    obtain ⟨rfl, -, hlooks⟩ := hstands.setOutput hspares run
    constructor
    · simp [Definition.answer, Definition.declaresOutput, hname]
    · -- contexts are never taken away, so the one that is looked at is known
      have hknown := run.leads.holds_before (P := fun w => c < w.contexts.length)
        (fun e _ hc => hc.trans_le e.length_le) hstands.known
      exact fun e he hmine => (hlooks hname e he hmine).perform (hknown e he)

/-! A function with an output that is declared twice, an invocation that sets it in several spellings, and a
serializer for texts. -/

def reportFunction : Definition where
  id := "7"
  name := "report"
  entryPoint := "report"
  outputs := ["Blob", "$Return", "log", "BLOB"]
  handler := 0

def reportWorld : World where
  contexts := [{
    facts := { invocationId := "1", definition := reportFunction, token := 0 }
    state := .executing }]

def reportCalls : List (String × OutputValue) :=
  [("LOG", .bool true), ("blob", .text "1"), ("mail", .text "2"), ("$RETURN", .i64 7), ("BLOB", .text "3")]

def shuffledCalls : List (String × OutputValue) :=
  [("Blob", .text "3"), ("$return", .bool false), ("log", .bool true), ("$Return", .i64 7)]

def plainTexts : Serializer where
  name := "plain"
  serialize
    | .text s => .ok (some (.bytes (Text.utf8 s)))
    | _ => .ok none

theorem produces_alone {d : Definition} {c : ContextId} {w : World} (h : Stands d c [] w)
    (calls : List (String × OutputValue)) :
    Produces d calls (.ok (calls.map d.answer, calls.foldl d.setOutput [])) := by
  obtain ⟨es, hmine, run⟩ := Job.run_alone (Job.produce c calls) w
  have hproduces : Produces d calls _ := .intro h (spares_of_mine hmine) run
  rwa [hproduces.eq] at hproduces

theorem fold_names : Text.fold "Blob" = "blob" ∧ Text.fold "BLOB" = "blob" ∧ Text.fold "blob" = "blob" ∧
    Text.fold "log" = "log" ∧ Text.fold "LOG" = "log" ∧ Text.fold "mail" = "mail" ∧
    Text.fold "$Return" = "$return" ∧ Text.fold "$RETURN" = "$return" ∧ Text.fold "$return" = "$return" := by
  refine ⟨?_, ?_, ?_, ?_, ?_, ?_, ?_, ?_, ?_⟩ <;> exact Text.fold_eq_iff.mpr (by decide)

theorem apply_report : Serializer.apply [plainTexts] (.text "3") = .ok (.bytes [51]) ∧
    Serializer.apply [plainTexts] (.i64 7) = .ok (.json "7") ∧
    Serializer.apply [plainTexts] (.bool true) = .ok (.json "true") := by decide

theorem received_report :
    reportFunction.received reportCalls = [("Blob", .text "3"), ("$Return", .i64 7), ("log", .bool true)] := by
  simp [Definition.received, SerializedOutputs.entriesOf, Text.firsts, lastSet, Definition.accepted,
    Definition.declaresOutput, Definition.outputName, reportFunction, reportCalls, Text.lookup, Text.sameName,
    fold_names]

theorem lastSet_shuffled : ∀ name ∈ reportFunction.outputs,
    lastSet (reportFunction.accepted reportCalls) name = lastSet (reportFunction.accepted shuffledCalls) name := by
  simp [lastSet, Definition.accepted, Definition.declaresOutput, Definition.outputName, reportFunction,
    reportCalls, shuffledCalls, Text.lookup, Text.sameName, fold_names]

theorem collect_report : ∃ produced produced' es w',
    Produces reportFunction reportCalls (.ok (reportCalls.map reportFunction.answer, produced)) ∧
    Produces reportFunction shuffledCalls (.ok (shuffledCalls.map reportFunction.answer, produced')) ∧
    Job.Run (Job.setOutput 0 "mail" (.text "2")) reportWorld es (.ok (.error (.undeclaredOutput "mail"))) w' ∧
    Collects [plainTexts] (reportFunction.received reportCalls)
      (SerializedOutputs.collect [plainTexts] reportFunction.outputs produced) ∧
    SerializedOutputs.collect [plainTexts] reportFunction.outputs produced =
      SerializedOutputs.collect [plainTexts] reportFunction.outputs produced' ∧
    (∀ e ∈ es, e.mine = true → e.after = e.before) ∧
    SerializedOutputs.collect [plainTexts] reportFunction.outputs produced =
      .ok ⟨[⟨"Blob", .bytes [51]⟩, ⟨"log", .json "true"⟩], some (.json "7")⟩ := by
  have hstands : Stands reportFunction 0 [] reportWorld := ⟨by decide, rfl, rfl, rfl⟩
  have hcalls := produces_alone hstands reportCalls
  have hshuffled := produces_alone hstands shuffledCalls
  obtain ⟨hcollect, horder, hundeclared⟩ := collect_produced reportFunction [plainTexts]
  have hmail : reportFunction.outputName "mail" = none := by
    simp [reportFunction, Definition.outputName, Text.sameName, fold_names]
  obtain ⟨es, hmine, run⟩ := Job.run_alone (Job.setOutput 0 "mail" (.text "2")) reportWorld
  obtain ⟨hrefused, hsame⟩ :=
    hundeclared 0 [] "mail" (.text "2") _ _ _ _ hmail hstands (spares_of_mine hmine) run
  rw [hrefused] at run
  refine ⟨_, _, es, _, hcalls, hshuffled, run, ?_, horder _ _ _ _ _ _ hcalls hshuffled lastSet_shuffled, hsame, ?_⟩
  · obtain ⟨produced, heq, hcollects⟩ := hcollect _ _ hcalls
    obtain ⟨-, rfl⟩ := Prod.mk.inj (Except.ok.inj heq)
    exact hcollects
  · rw [collect_foldl, received_report]
    simp [SerializedOutputs.addAll, SerializedOutputs.add, apply_report, Text.sameName, returnBinding, fold_names,
      Except.map, bind, Except.bind, pure, Except.pure]

end FunctionWorker
