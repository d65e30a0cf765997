/-
The end of the writing. A sender looks at the flag before it pushes, so it may push when the stream has
been shut down in the meantime. What is on the queue before the writer has emptied it after the shutdown
is delivered; what is pushed after that is taken as long as there is a receiver, and lost.
-/
import FunctionWorker.Proofs.Bridge.Faithful

namespace FunctionWorker

variable {Op : Type} {R : Op → Type} {σ : Type} {s : Stream R σ} {b b' : Bridge R σ} {x y : Chronicle R σ}
  {t : Nat} {a : Activity R} {more : List Occurrence}

/-! ## The writer -/

def Occurrence.failed? : Occurrence → Option Envelope
  | .failed e => some e
  | _ => none

/-- The envelopes that the sink was handed and did not take. -/
def failures (seen : List Occurrence) : List Envelope := seen.filterMap (·.failed?)

@[simp] theorem failures_append (l₁ l₂ : List Occurrence) : failures (l₁ ++ l₂) = failures l₁ ++ failures l₂ :=
  List.filterMap_append

/-- The phases in which the writer takes what is on the queue. -/
def WriterPhase.takes : WriterPhase → Bool
  | .receiving | .draining => true
  | _ => false

def Activity.phase? : Activity R → Option WriterPhase
  | .writer phase => some phase
  | _ => none

theorem Activity.phase?_of_work {r : Work R Unit} (h : a.work? = some r) : a.phase? = none := by
  cases a with
  | writer => cases h
  | _ => rfl

namespace Bridge

/-- Whether the writer, the first task of an opened stream, takes what is on the queue. -/
def takes (b : Bridge R σ) : Bool := ((b.activity? 0).bind (·.phase?)).any (·.takes)

theorem takes_of_activity (h : b.activity? 0 = some a) : b.takes = a.phase?.any (·.takes) := by
  unfold takes
  rw [h, Option.bind_some]

theorem takes_of_none (h : b.activity? 0 = none) : b.takes = false := by
  unfold takes
  rw [h]
  rfl

/-- No other task writes. -/
def OneWriter (b : Bridge R σ) : Prop := ∀ task ∈ b.tasks, task.2.phase?.isSome → task.1 = 0

theorem OneWriter.eq_zero {phase : WriterPhase} (h : b.OneWriter) (ha : b.activity? t = some (.writer phase)) :
    t = 0 := h _ (activity?_mem ha) rfl

theorem OneWriter.finish (h : b.OneWriter) (t : Nat) : (b.finish t).OneWriter := fun task htask =>
  h task (List.mem_filter.1 htask).1

theorem OneWriter.spawn (h : b.OneWriter) (ha : a.phase? = none) : (b.spawn a).OneWriter := by
  intro task htask hphase
  rcases List.mem_append.1 htask with htask | htask
  · exact h task htask hphase
  · rw [List.mem_singleton.1 htask, ha] at hphase
    cases hphase

theorem OneWriter.become (h : b.OneWriter) (ha : a.phase?.isSome → t = 0) : (b.become t a).OneWriter := by
  intro task htask hphase
  obtain ⟨task₀, htask₀, rfl⟩ := List.mem_map.1 htask
  by_cases ht : task₀.1 = t
  · rw [if_pos ht] at hphase ⊢
    exact ha hphase
  · rw [if_neg ht] at hphase ⊢
    exact h task₀ htask₀ hphase

theorem OneWriter.alters (h : b.OneWriter) (ha : b.Alters more b') : b'.OneWriter := by
  cases ha with
  | watches => exact h.spawn rfl
  | _ => exact h

theorem OneWriter.step (h : b.OneWriter) (hs : b.Steps s t more b') : b'.OneWriter := by
  cases hs with
  | reads | writes => exact h
  | dispatches => exact OneWriter.spawn (b := { b with inbound := _ }) h rfl
  | asks => exact (h.alters (perform_alters ..)).become nofun
  | fails writer => exact OneWriter.become (b := { b with queue := _, shutdown := _ }) h fun _ => h.eq_zero writer
  | turns writer => exact h.become fun _ => h.eq_zero writer
  | leaves writer =>
    exact OneWriter.become (b := { b with queue := _, receiver := _, shutdown := _ }) h fun _ => h.eq_zero writer
  | suspends _ waiting =>
    refine h.become fun hphase => ?_
    rw [Activity.phase?_of_work waiting] at hphase
    cases hphase
  | resumes | polls => exact h.become nofun
  | ends | panics => exact h.finish _
  | readerEnds => exact OneWriter.finish (b := { b with inbox := _, shutdown := _, readResult := _ }) h _
  | dispatcherEnds => exact OneWriter.finish (b := { b with dispatcherDone := _ }) h _
  | joins => exact OneWriter.finish (b := { b with result := _ }) h _
  | closes => exact OneWriter.finish (b := { b with shutdown := _ }) h _

/-- What a step means for the writer: it goes on as before, or it stops taking what is on the queue, because
a write failed or because the queue is empty, or it gives up the receiver when it has stopped. -/
inductive Writing (b : Bridge R σ) (more : List Occurrence) (b' : Bridge R σ) : Prop
  | goesOn (taking : b'.takes = b.takes) (receiver : b'.receiver = b.receiver)
      (hands : b.takes = true ∨ handed more = [])
  | fails (failed : failures more ≠ []) (taking : b.takes = true) (after : b'.takes = false)
  | empties (queue : b.queue = []) (quiet : more = []) (taking : b.takes = true) (after : b'.takes = false)
  | leaves (quiet : more = []) (taking : b.takes = false) (after : b'.takes = false)

/-- A step of another task. -/
theorem Writing.other (h : b'.activity? 0 = b.activity? 0) (hr : b'.receiver = b.receiver)
    (hh : handed more = []) : Writing b more b' := by
  refine .goesOn ?_ hr (.inr hh)
  unfold takes
  rw [h]

/-- A step of a task that does not write, and does not write after it. -/
theorem Writing.apart (hs : b.Steps s t more b') (hn : b.Numbered) (ha : b.activity? t = some a)
    (hp : a.phase? = none) (hafter : ∀ a', b'.activity? t = some a' → a'.phase? = none)
    (hr : b'.receiver = b.receiver) (hh : handed more = []) : Writing b more b' := by
  by_cases ht : t = 0
  · subst ht
    refine .goesOn ?_ hr (.inr hh)
    rw [takes_of_activity ha, hp]
    cases hb : b'.activity? 0 with
    | none => exact takes_of_none hb
    | some a' => rw [takes_of_activity hb, hafter a' hb]
  · exact .other (hs.others (Ne.symm ht) (Nat.zero_lt_of_lt (hs.lt hn))) hr hh

/-- A task that is started does not write, even if it is the first one. -/
theorem Writing.spawn (hn : b.Numbered) (r : Work R Unit) : Writing b [] (b.spawn (.routine r)) := by
  rcases Nat.eq_zero_or_pos b.nextTask with hzero | hpos
  · have hafter := activity?_spawn_self hn (.routine r)
    rw [hzero] at hafter
    refine .goesOn ?_ rfl (.inr rfl)
    rw [takes_of_activity hafter]
    cases hb : b.activity? 0 with
    | none => exact (takes_of_none hb).symm
    | some a =>
      have hlt := hn.lt hb
      omega
  · exact .other (activity?_spawn_of_lt hpos _) rfl rfl

theorem Alters.handed (h : b.Alters more b') : handed more = [] := by
  cases h <;> rfl

theorem Steps.writing (h : b.Steps s t more b') (hn : b.Numbered) (hw : b.OneWriter) : Writing b more b' := by
  have hs := h
  -- a task that does not write may still be the first one, where no stream was opened
  have hover {c : Bridge R σ} : ∀ a', (c.finish t).activity? t = some a' → a'.phase? = none := by
    intro a' ha'
    rw [activity?_finish_self] at ha'
    cases ha'
  have hbecome {c : Bridge R σ} {a a₀} (hc : c.activity? t = some a₀) (hp : a.phase? = none) :
      ∀ a', (c.become t a).activity? t = some a' → a'.phase? = none := by
    intro a' ha'
    rw [activity?_become_self hc] at ha'
    cases ha'
    exact hp
  cases h with
  | reads => exact .other rfl rfl rfl
  | dispatches =>
    exact .other (activity?_spawn_of_lt (b := { b with inbound := _ }) (Nat.zero_lt_of_lt (hs.lt hn)) _) rfl rfl
  | readerEnds held | dispatcherEnds held | ends held | panics held | closes held =>
    exact .apart hs hn held rfl hover rfl rfl
  | @asks x k routine =>
    have hafter := ((perform_alters s.processor x b).activity? (hn.lt routine)).trans routine
    exact .apart hs hn routine rfl (hbecome hafter rfl) (perform_alters ..).receiver (perform_alters ..).handed
  | suspends routine waiting =>
    exact .apart hs hn routine rfl (hbecome routine (Activity.phase?_of_work waiting)) rfl rfl
  | resumes waiting work =>
    exact .apart hs hn waiting (Activity.phase?_of_work work) (hbecome waiting rfl) rfl rfl
  | polls watching => exact .apart hs hn watching rfl (hbecome watching rfl) rfl rfl
  | writes writer writing =>
    obtain rfl := hw.eq_zero writer
    refine .goesOn rfl rfl (.inl ?_)
    rw [takes_of_activity writer]
    rcases writing with rfl | rfl <;> rfl
  | fails writer writing =>
    obtain rfl := hw.eq_zero writer
    refine .fails (List.cons_ne_nil _ _) ?_ ?_
    · rw [takes_of_activity writer]
      rcases writing with rfl | rfl <;> rfl
    · exact takes_of_activity (activity?_become_self (b := { b with queue := _, shutdown := _ }) writer _)
  | @turns phase phase' writer turn =>
    obtain rfl := hw.eq_zero writer
    have hbefore := takes_of_activity writer
    have hafter := takes_of_activity (activity?_become_self writer (.writer phase'))
    cases turn with
    | closes queue => exact .empties queue rfl hbefore hafter
    | drains | closed => exact .goesOn (hafter.trans hbefore.symm) rfl (.inr rfl)
  | leaves writer =>
    obtain rfl := hw.eq_zero writer
    refine .leaves rfl (takes_of_activity writer) ?_
    exact takes_of_activity
      (activity?_become_self (b := { b with queue := _, receiver := _, shutdown := _ }) writer _)
  | @joins r result writer =>
    obtain rfl := hw.eq_zero writer
    have hafter := takes_of_none (activity?_finish_self { b with result := some result } 0)
    exact .goesOn (hafter.trans (takes_of_activity writer).symm) rfl (.inr rfl)

end Bridge

/-! ## Delivery -/

/-- How the writer is placed among the tasks. -/
structure Manned (b : Bridge R σ) : Prop where
  numbered : b.Numbered
  single : b.OneWriter
  receiver : b.takes = true → b.receiver = true

theorem Manned.writing (h : Manned b) (hw : b.Writing more b') (hn : b'.Numbered) (ho : b'.OneWriter) :
    Manned b' := by
  refine ⟨hn, ho, fun ht => ?_⟩
  cases hw with
  | goesOn taking receiver =>
    rw [receiver]
    exact h.receiver (taking.symm.trans ht)
  | fails _ _ after | empties _ _ _ after | leaves _ _ after =>
    rw [ht] at after
    cases after

/-- How it stands with what has been pushed by some moment: it has been handed to the sink, or the writer
still takes what is on the queue, unless a write has failed. -/
inductive Delivering (es : List Envelope) (x : Chronicle R σ) : Prop
  | failed (lost : failures x.seen ≠ [])
  | delivered (all : es <+: handed x.seen)
  | awaits (taking : x.bridge.takes = true) (all : es <+: pushed x.seen)

theorem Delivering.writing {es : List Envelope} (h : Delivering es x) (hm : Manned x.bridge)
    (hf : Flow x.seen x.bridge) (hseen : y.seen = x.seen ++ more) (hw : x.bridge.Writing more y.bridge) :
    Delivering es y := by
  have hhanded : handed x.seen <+: handed y.seen := by
    rw [hseen, handed_append]
    exact List.prefix_append _ _
  have hpushed : pushed x.seen <+: pushed y.seen := by
    rw [hseen, pushed_append]
    exact List.prefix_append _ _
  cases h with
  | failed hx =>
    refine .failed ?_
    rw [hseen, failures_append]
    exact List.append_ne_nil_of_left_ne_nil hx _
  | delivered all => exact .delivered (all.trans hhanded)
  | awaits taking all =>
    cases hw with
    | goesOn same => exact .awaits (same.trans taking) (all.trans hpushed)
    | fails hmore =>
      refine .failed ?_
      rw [hseen, failures_append]
      exact List.append_ne_nil_of_right_ne_nil _ hmore
    | empties queue =>
      -- with the queue empty, what was pushed is what was handed over
      refine .delivered (List.IsPrefix.trans ?_ hhanded)
      rw [← List.append_nil (handed x.seen), ← queue, ← hf.queued (hm.receiver taking)]
      exact all
    | leaves _ before =>
      rw [taking] at before
      cases before

namespace Chronicle

theorem act_writing (h : Manned x.bridge) (m : Move R) :
    ∃ more, (x.act s m).seen = x.seen ++ more ∧ x.bridge.Writing more (x.act s m).bridge ∧
      Manned (x.act s m).bridge := by
  have hstill {b : Bridge R σ} (hw : x.bridge.Writing [] b) (hn : b.Numbered) (ho : b.OneWriter) :
      ∃ more, x.seen = x.seen ++ more ∧ x.bridge.Writing more b ∧ Manned b :=
    ⟨[], (List.append_nil _).symm, hw, h.writing hw hn ho⟩
  cases m with
  | step t =>
    refine act_step (hstill (.other rfl rfl rfl) h.numbered h.single) (P := fun y => ∃ more,
      y.seen = x.seen ++ more ∧ x.bridge.Writing more y.bridge ∧ Manned y.bridge) fun more b hs => ?_
    have hw := hs.writing h.numbered h.single
    exact ⟨more, rfl, hw, h.writing hw (hs.numbered h.numbered) (h.single.step hs)⟩
  | deliver items =>
    obtain ⟨inbox, sent, hact⟩ := act_deliver (s := s) x items
    rw [hact]
    exact hstill (.other rfl rfl rfl) h.numbered h.single
  | start r => exact hstill (.spawn h.numbered r) (h.numbered.spawn _) (h.single.spawn rfl)
  | _ => exact hstill (.other rfl rfl rfl) h.numbered h.single

theorem run_manned (h : Manned x.bridge) : ∀ moves, Manned (x.run s moves).bridge :=
  run_keeps (P := fun y => Manned y.bridge) (fun _ m h => (act_writing h m).elim fun _ h => h.2.2) h

theorem opening_manned (quiet : Work.Quiet s.processor.start) (state : σ) (shutdown : Bool) :
    Manned (opening s state shutdown).bridge := by
  refine opening_of_opens (P := fun y => Manned y.bridge) quiet fun seen b hopens => ?_
  have hloops {b : Bridge R σ} (htasks : b.tasks = []) (hnext : b.nextTask = 0) (hr : b.receiver = true) :
      Manned b.startLoops := by
    have hwriter : (b.spawn (.writer .receiving)).OneWriter := by
      intro task htask _
      rw [show (b.spawn _).tasks = _ from congrArg₂ (fun l n => l ++ [(n, _)]) htasks hnext] at htask
      rw [List.mem_singleton.1 htask]
    exact ⟨(Bridge.numbered_of_tasks htasks).startLoops, (hwriter.spawn rfl).spawn rfl, fun _ => hr⟩
  cases hopens with
  | greets | starts => exact hloops rfl rfl rfl
  | refuses => exact ⟨Bridge.numbered_of_tasks rfl, nofun, nofun⟩

/-- What is pushed while the writer takes what is on the queue is handed to the sink before the receiver is
given up, if no write fails. -/
theorem run_delivering {es : List Envelope} (hm : Manned x.bridge) (hf : Flow x.seen x.bridge)
    (h : Delivering es x) (moves : List (Move R)) : Delivering es (x.run s moves) := by
  refine (run_keeps (P := fun y => Manned y.bridge ∧ Flow y.seen y.bridge ∧ Delivering es y) ?_ ⟨hm, hf, h⟩ moves).2.2
  rintro y m ⟨hm, hf, h⟩
  obtain ⟨more, hseen, hw, hm'⟩ := act_writing (s := s) hm m
  exact ⟨hm', act_flow hf m, h.writing hm hf hseen hw⟩

/-- Once the writer has stopped taking what is on the queue, nothing more is handed to the sink. -/
theorem run_spent (hm : Manned x.bridge) (hx : x.bridge.takes = false) (moves : List (Move R)) :
    handed (x.run s moves).seen = handed x.seen := by
  refine (run_keeps (P := fun y => Manned y.bridge ∧ y.bridge.takes = false ∧ handed y.seen = handed x.seen) ?_
    ⟨hm, hx, rfl⟩ moves).2.2
  rintro y m ⟨hm, hy, h⟩
  obtain ⟨more, hseen, hw, hm'⟩ := act_writing (s := s) hm m
  have hstill (hmore : handed more = []) : handed (y.act s m).seen = handed x.seen := by
    rw [hseen, handed_append, hmore, List.append_nil, h]
  refine ⟨hm', ?_⟩
  cases hw with
  | goesOn same _ hands =>
    refine ⟨same.trans hy, hstill (hands.resolve_left ?_)⟩
    rw [hy]
    exact Bool.false_ne_true
  | fails _ before | empties _ _ before =>
    rw [hy] at before
    cases before
  | leaves quiet _ after => exact ⟨after, hstill (by rw [quiet]; rfl)⟩

theorem run_greeted (quiet : Work.Quiet s.processor.start) (state : σ) (shutdown : Bool) (moves : List (Move R))
    (receiver : ((opening s state shutdown).run s moves).bridge.receiver = true) :
    pushed ((opening s state shutdown).run s moves).seen =
      (s.greeting state shutdown).toList ++ taken ((opening s state shutdown).run s moves).asked := by
  rw [run_pushed quiet]
  cases hg : s.greeting state shutdown with
  | none => rfl
  | some e =>
    cases shutdown with
    | false => rfl
    | true =>
      rw [(run_refused quiet hg moves).2] at receiver
      cases receiver

/-- Every envelope that the queue took as long as the writer took from it is handed to the sink, once and in
turn, before the receiver is given up, if no write fails. No envelope is that the queue did not take. -/
theorem run_delivers (quiet : Work.Quiet s.processor.start) (state : σ) (shutdown : Bool)
    (moves later : List (Move R)) (taking : ((opening s state shutdown).run s moves).bridge.takes = true)
    (unfailed : failures (((opening s state shutdown).run s moves).run s later).seen = [])
    (given : (((opening s state shutdown).run s moves).run s later).bridge.receiver = false) :
    (s.greeting state shutdown).toList ++ taken ((opening s state shutdown).run s moves).asked <+:
        handed (((opening s state shutdown).run s moves).run s later).seen ∧
      handed (((opening s state shutdown).run s moves).run s later).seen <+:
        (s.greeting state shutdown).toList ++
          taken (((opening s state shutdown).run s moves).run s later).asked := by
  have manned : Manned ((opening s state shutdown).run s moves).bridge := run_manned (opening_manned quiet state shutdown) moves
  have flow := run_flow quiet state shutdown moves
  have pushes := run_greeted quiet state shutdown moves (manned.receiver taking)
  generalize (opening s state shutdown).run s moves = x at taking unfailed given manned flow pushes ⊢
  have pushes' : pushed (x.run s later).seen = (s.greeting state shutdown).toList ++ taken (x.run s later).asked :=
    run_keeps (P := fun y => pushed y.seen = _ ++ taken y.asked) (fun _ m h => act_pushed h m) pushes later
  have flow' : Flow (x.run s later).seen (x.run s later).bridge :=
    run_keeps (P := fun y => Flow y.seen y.bridge) (fun _ m h => act_flow h m) flow later
  rw [← pushes, ← pushes']
  refine ⟨?_, flow'.inOrder⟩
  cases run_delivering manned flow (.awaits taking List.prefix_rfl) later with
  | failed lost => exact absurd unfailed lost
  | delivered all => exact all
  | awaits taking' =>
    have receiver := (run_manned manned later).receiver taking'
    rw [given] at receiver
    cases receiver

end Chronicle

/-! ## Two senders -/

namespace Porter

def late : Envelope := envelope "late" .statusResponse

/-- A task looks at the flag, the stream is shut down, and the task pushes. -/
def sending : List (Move NoOp) := [.start (Bridge.respond (some late)), .step 3, .shutDown, .step 3]

theorem run_delivers_sending :
    Work.Quiet stream.processor.start ∧
      ((Chronicle.opening stream () false).run stream sending).bridge.takes = true ∧
      failures (((Chronicle.opening stream () false).run stream sending).run stream
        (List.replicate 6 (.step 0))).seen = [] ∧
      (((Chronicle.opening stream () false).run stream sending).run stream
        (List.replicate 6 (.step 0))).bridge.receiver = false ∧
      [envelope "" (.startStream "w-1"), late] <+:
        handed (((Chronicle.opening stream () false).run stream sending).run stream
          (List.replicate 6 (.step 0))).seen :=
  ⟨trivial, by decide +kernel, by decide +kernel, by decide +kernel,
    (Chronicle.run_delivers (s := stream) trivial () false sending (List.replicate 6 (.step 0)) (by decide +kernel)
      (by decide +kernel) (by decide +kernel)).1⟩

/-- A task looks at the flag and the stream is shut down. The writer writes the greeting and finds the
queue empty, and the task pushes before the receiver is given up. -/
def losing : List (Move NoOp) :=
  [.start (Bridge.respond (some late)), .step 3, .shutDown, .step 0, .step 0, .step 0, .step 3, .step 0, .step 0,
    .step 1, .step 2, .step 0]

/-- What was taken is not always delivered, though no write fails and the stream comes to its end. -/
theorem run_loses :
    taken ((Chronicle.opening stream () false).run stream losing).asked = [late] ∧
      failures ((Chronicle.opening stream () false).run stream losing).seen = [] ∧
      ((Chronicle.opening stream () false).run stream losing).bridge.result.isSome = true ∧
      handed ((Chronicle.opening stream () false).run stream losing).seen = [envelope "" (.startStream "w-1")] := by
  decide +kernel

end Porter

end FunctionWorker
