/-
Chronicles of a stream: a bridge together with all that it has done. Tasks take steps in any order; at
any moment the host sends or hangs up, time passes, other tasks are started, and the stream is shut
down. What a step can do is said once, in `Bridge.Steps`.
-/
import FunctionWorker.Bridge.Machine
import Mathlib.Tactic

namespace FunctionWorker

variable {Op : Type} {R : Op → Type} {σ α : Type}

/-! ## What was seen -/

def Occurrence.pushed? : Occurrence → Option Envelope
  | .pushed e => some e
  | _ => none

/-- The sink is handed an envelope whether it takes it or not. -/
def Occurrence.handed? : Occurrence → Option Envelope
  | .written e | .failed e => some e
  | _ => none

def Occurrence.received? : Occurrence → Option Envelope
  | .received e => some e
  | _ => none

/-- The envelopes that were put on the outbound queue, in order. -/
def pushed (seen : List Occurrence) : List Envelope := seen.filterMap (·.pushed?)

/-- The envelopes that the sink was handed, in order. -/
def handed (seen : List Occurrence) : List Envelope := seen.filterMap (·.handed?)

def received (seen : List Occurrence) : List Envelope := seen.filterMap (·.received?)

@[simp] theorem pushed_append (l₁ l₂ : List Occurrence) : pushed (l₁ ++ l₂) = pushed l₁ ++ pushed l₂ :=
  List.filterMap_append

@[simp] theorem handed_append (l₁ l₂ : List Occurrence) : handed (l₁ ++ l₂) = handed l₁ ++ handed l₂ :=
  List.filterMap_append

@[simp] theorem received_append (l₁ l₂ : List Occurrence) :
    received (l₁ ++ l₂) = received l₁ ++ received l₂ := List.filterMap_append

/-- An effect that a task asked for, with what it was answered. -/
structure Exchange {Op : Type} (R : Op → Type) where
  effect : Effect Op
  reply : effect.Reply R

namespace Exchange

def now (ms : Nat) : Exchange R := ⟨.now, ms⟩

def looked (closed : Bool) : Exchange R := ⟨.isClosed, closed⟩

def push (e : Envelope) (taken : Bool) : Exchange R := ⟨.push e, taken⟩

/-- The envelope that the queue took. -/
def taken? (x : Exchange R) : Option Envelope :=
  match x.effect, x.reply with
  | .push e, (taken : Bool) => if taken then some e else none
  | _, _ => none

end Exchange

/-- The envelopes that the queue took from tasks. -/
def taken (asked : List (Nat × Exchange R)) : List Envelope := asked.filterMap (·.2.taken?)

/-- What one task asked for. -/
def askedBy (t : Nat) (asked : List (Nat × Exchange R)) : List (Exchange R) :=
  (asked.filter (·.1 = t)).map (·.2)

@[simp] theorem taken_append (l₁ l₂ : List (Nat × Exchange R)) : taken (l₁ ++ l₂) = taken l₁ ++ taken l₂ :=
  List.filterMap_append

@[simp] theorem askedBy_append (t : Nat) (l₁ l₂ : List (Nat × Exchange R)) :
    askedBy t (l₁ ++ l₂) = askedBy t l₁ ++ askedBy t l₂ := by
  unfold askedBy
  rw [List.filter_append, List.map_append]

/-! ## Tasks of a bridge -/

/-- What a task has still to do, whether it waits or not. -/
def Activity.work? : Activity R → Option (Work R Unit)
  | .routine r | .sleeping _ r | .awaiting _ r => some r
  | _ => none

namespace Bridge

variable {s : Stream R σ} {p : Processor R σ} {b b' : Bridge R σ} {t t' : Nat} {a : Activity R}

/-- Tasks have numbers below the next one. -/
def Numbered (b : Bridge R σ) : Prop := ∀ x ∈ b.tasks, x.1 < b.nextTask

theorem activity?_mem (h : b.activity? t = some a) : (t, a) ∈ b.tasks := by
  obtain ⟨l₁, l₂, heq, -⟩ := List.lookup_eq_some_iff.1 h
  rw [heq]
  exact List.mem_append_right _ (List.mem_cons_self ..)

theorem Numbered.lt (h : b.Numbered) (ha : b.activity? t = some a) : t < b.nextTask := h _ (activity?_mem ha)

theorem lookup_map_self {l : List (Nat × Activity R)} (h : (l.lookup t).isSome) :
    (l.map fun x => if x.1 = t then (t, a) else x).lookup t = some a := by
  induction l with
  | nil => cases h
  | cons x l ih =>
    rw [List.map_cons]
    by_cases hx : x.1 = t
    · rw [if_pos hx, List.lookup_cons, beq_self_eq_true]
    · have hne : (t == x.1) = false := beq_false_of_ne (Ne.symm hx)
      rw [List.lookup_cons, hne] at h
      rw [if_neg hx, List.lookup_cons, hne]
      exact ih h

theorem lookup_map_of_ne (l : List (Nat × Activity R)) (h : t' ≠ t) :
    (l.map fun x => if x.1 = t then (t, a) else x).lookup t' = l.lookup t' := by
  induction l with
  | nil => rfl
  | cons x l ih =>
    rw [List.map_cons]
    by_cases hx : x.1 = t
    · rw [if_pos hx, List.lookup_cons, List.lookup_cons, ih, hx]
      rw [beq_false_of_ne h]
    · rw [if_neg hx, List.lookup_cons, List.lookup_cons, ih]

theorem activity?_become_self (h : b.activity? t = some a) (a' : Activity R) :
    (b.become t a').activity? t = some a' := lookup_map_self (by rw [show b.tasks.lookup t = _ from h]; rfl)

theorem activity?_become_of_ne (h : t' ≠ t) (a : Activity R) : (b.become t a).activity? t' = b.activity? t' :=
  lookup_map_of_ne b.tasks h

theorem activity?_finish_self (b : Bridge R σ) (t : Nat) : (b.finish t).activity? t = none := by
  refine List.lookup_eq_none_iff.2 fun x hx => ?_
  have hne := of_decide_eq_true (List.mem_filter.1 hx).2
  exact bne_iff_ne.2 (Ne.symm hne)

theorem activity?_finish_of_ne (h : t' ≠ t) : (b.finish t).activity? t' = b.activity? t' := by
  show (b.tasks.filter fun x => x.1 ≠ t).lookup t' = b.tasks.lookup t'
  generalize b.tasks = l
  induction l with
  | nil => rfl
  | cons x l ih =>
    rw [List.filter_cons]
    by_cases hx : x.1 = t
    · rw [if_neg (by simp [hx]), ih, List.lookup_cons, hx, beq_false_of_ne h]
    · rw [if_pos (by simp [hx]), List.lookup_cons, List.lookup_cons, ih]

theorem activity?_spawn_of_lt (h : t < b.nextTask) (a : Activity R) : (b.spawn a).activity? t = b.activity? t := by
  show (b.tasks ++ [(b.nextTask, a)]).lookup t = b.tasks.lookup t
  rw [List.lookup_append, List.lookup_cons, beq_false_of_ne h.ne, List.lookup_nil, Option.or_none]

theorem activity?_spawn_self (h : b.Numbered) (a : Activity R) : (b.spawn a).activity? b.nextTask = some a := by
  show (b.tasks ++ [(b.nextTask, a)]).lookup b.nextTask = some a
  have hnone : b.tasks.lookup b.nextTask = none := by
    refine List.lookup_eq_none_iff.2 fun x hx => ?_
    exact bne_iff_ne.2 (h x hx).ne'
  rw [List.lookup_append, hnone, List.lookup_cons, beq_self_eq_true, Option.none_or]

theorem numbered_of_tasks (h : b.tasks = []) : b.Numbered := by
  intro x hx
  rw [h] at hx
  cases hx

theorem Numbered.spawn (h : b.Numbered) (a : Activity R) : (b.spawn a).Numbered := by
  intro x hx
  rcases List.mem_append.1 hx with hx | hx
  · exact Nat.lt_succ_of_lt (h x hx)
  · rw [List.mem_singleton.1 hx]
    exact Nat.lt_succ_self _

theorem Numbered.startLoops (h : b.Numbered) : b.startLoops.Numbered := ((h.spawn _).spawn _).spawn _

theorem Numbered.become (h : b.Numbered) (ht : t < b.nextTask) (a : Activity R) : (b.become t a).Numbered := by
  intro x hx
  obtain ⟨y, hy, rfl⟩ := List.mem_map.1 hx
  split
  · exact ht
  · exact h y hy

theorem Numbered.finish (h : b.Numbered) (t : Nat) : (b.finish t).Numbered := fun x hx =>
  h x (List.mem_filter.1 hx).1

/-! ## Steps -/

/-- From one phase of the writer to the next one, with nothing to write. -/
inductive Turns (b : Bridge R σ) : WriterPhase → WriterPhase → Prop
  | drains (queue : b.queue = []) (shutdown : b.shutdown = true) : Turns b .receiving .draining
  | closes (queue : b.queue = []) : Turns b .draining (.closing (.ok ()))
  | closed {r} : Turns b (.closing r) (.leaving r)

/-- What a step of a task can do. -/
inductive Steps (s : Stream R σ) (b : Bridge R σ) (t : Nat) : List Occurrence → Bridge R σ → Prop
  | reads {e rest} (reader : b.activity? t = some .reader) (inbox : b.inbox = .ok e :: rest)
      (going : b.shutdown = false) :
      Steps s b t [.received e] { b with inbox := rest, inbound := b.inbound ++ [e] }
  | readerEnds {inbox r} (reader : b.activity? t = some .reader) :
      Steps s b t [] ({ b with inbox, shutdown := true, readResult := some r }.finish t)
  | dispatches {e rest} (dispatcher : b.activity? t = some .dispatcher) (inbound : b.inbound = e :: rest) :
      Steps s b t [.dispatched e] ({ b with inbound := rest }.spawn (.routine (dispatch s.processor e)))
  | dispatcherEnds (dispatcher : b.activity? t = some .dispatcher) (inbound : b.inbound = []) :
      Steps s b t [] ({ b with dispatcherDone := true }.finish t)
  | writes {phase e rest} (writer : b.activity? t = some (.writer phase))
      (writing : phase = .receiving ∨ phase = .draining) (queue : b.queue = e :: rest) :
      Steps s b t [.written e] { b with queue := rest, written := b.written + 1 }
  | fails {phase e rest r} (writer : b.activity? t = some (.writer phase))
      (writing : phase = .receiving ∨ phase = .draining) (queue : b.queue = e :: rest) :
      Steps s b t [.failed e] ({ b with queue := rest, shutdown := true }.become t (.writer (.leaving r)))
  | turns {phase phase'} (writer : b.activity? t = some (.writer phase)) (turn : Turns b phase phase') :
      Steps s b t [] (b.become t (.writer phase'))
  | leaves {r} (writer : b.activity? t = some (.writer (.leaving r))) :
      Steps s b t []
        ({ b with queue := [], receiver := false, shutdown := true }.become t (.writer (.joining r)))
  | joins {r result} (writer : b.activity? t = some (.writer (.joining r))) :
      Steps s b t [] ({ b with result := some result }.finish t)
  | asks {x k} (routine : b.activity? t = some (.routine (.call x k))) :
      Steps s b t (perform s.processor x b).1
        ((perform s.processor x b).2.2.become t (.routine (k (perform s.processor x b).2.1)))
  | ends (routine : b.activity? t = some (.routine (.done ()))) : Steps s b t [] (b.finish t)
  | panics {x} (routine : b.activity? t = some (.routine (.panic x))) : Steps s b t [] (b.finish t)
  | suspends {w rest a} (routine : b.activity? t = some (.routine (.wait w rest)))
      (waiting : a.work? = some rest) : Steps s b t [] (b.become t a)
  | resumes {a rest} (waiting : b.activity? t = some a) (work : a.work? = some rest) (held : ∀ r, a ≠ .routine r) :
      Steps s b t [] (b.become t (.routine rest))
  | closes {deadline nextPoll} (watching : b.activity? t = some (.watch deadline nextPoll))
      (due : nextPoll ≤ b.clock ∧ s.processor.isIdle b.state = true ∨ deadline ≤ b.clock) :
      Steps s b t [] ({ b with shutdown := true }.finish t)
  | polls {deadline nextPoll} (watching : b.activity? t = some (.watch deadline nextPoll))
      (busy : s.processor.isIdle b.state = false) :
      Steps s b t [] (b.become t (.watch deadline (b.clock + pollInterval)))

theorem stepReader_inv {seen : List Occurrence} (h : b.stepReader t = some (seen, b'))
    (ha : b.activity? t = some .reader) : Steps s b t seen b' := by
  unfold stepReader at h
  split at h
  · rename_i hs
    cases h
    have hends := @Steps.readerEnds Op R σ s b t b.inbox (.ok ()) ha
    rwa [← hs] at hends
  · rename_i hs
    split at h
    · rename_i e rest hi
      cases h
      exact .reads ha hi (Bool.eq_false_of_not_eq_true hs)
    · cases h
      exact .readerEnds ha
    · split at h
      · cases h
        exact .readerEnds ha
      · cases h

theorem stepDispatcher_inv {seen : List Occurrence} (h : b.stepDispatcher s.processor t = some (seen, b'))
    (ha : b.activity? t = some .dispatcher) : Steps s b t seen b' := by
  unfold stepDispatcher at h
  split at h
  · rename_i e rest hi
    cases h
    exact .dispatches ha hi
  · rename_i hi
    split at h
    · cases h
      exact .dispatcherEnds ha hi
    · cases h

theorem writeFirst_inv {phase : WriterPhase} {e : Envelope} {rest : List Envelope}
    (ha : b.activity? t = some (.writer phase)) (hp : phase = .receiving ∨ phase = .draining)
    (hq : b.queue = e :: rest) : Steps s b t (writeFirst s b t e rest).1 (writeFirst s b t e rest).2 := by
  unfold writeFirst
  cases s.writeError b.written e with
  | none => exact .writes ha hp hq
  | some reason => exact .fails ha hp hq

theorem stepWriter_inv {phase : WriterPhase} {seen : List Occurrence}
    (h : b.stepWriter s t phase = some (seen, b')) (ha : b.activity? t = some (.writer phase)) :
    Steps s b t seen b' := by
  have hfirst : ∀ {e rest}, phase = .receiving ∨ phase = .draining → b.queue = e :: rest →
      some (writeFirst s b t e rest) = some (seen, b') → Steps s b t seen b' := by
    intro e rest hp hq hw
    have hinv := writeFirst_inv (s := s) ha hp hq
    rwa [Option.some.inj hw] at hinv
  unfold stepWriter at h
  split at h
  · split at h
    · rename_i e rest hq
      exact hfirst (.inl rfl) hq h
    · rename_i hq
      split at h
      · rename_i hs
        cases h
        exact .turns ha (.drains hq hs)
      · cases h
  · split at h
    · rename_i e rest hq
      exact hfirst (.inr rfl) hq h
    · rename_i hq
      cases h
      exact .turns ha (.closes hq)
  · cases h
    exact .turns ha .closed
  · cases h
    exact .leaves ha
  · split at h
    · split at h
      · cases h
        exact .joins ha
      · cases h
    · cases h

theorem stepRoutine_steps {r : Work R Unit} (ha : b.activity? t = some (.routine r)) :
    Steps s b t (b.stepRoutine s.processor t r).1 (b.stepRoutine s.processor t r).2 := by
  cases r with
  | done a => exact .ends ha
  | panic x => exact .panics ha
  | call x k => exact .asks ha
  | wait w rest =>
    cases w with
    | sleep ms => exact .suspends ha rfl
    | signal token => exact .suspends ha rfl

theorem stepWatch_inv {deadline nextPoll : Nat} {seen : List Occurrence}
    (h : b.stepWatch s.processor t deadline nextPoll = some (seen, b'))
    (ha : b.activity? t = some (.watch deadline nextPoll)) : Steps s b t seen b' := by
  unfold stepWatch at h
  split at h
  · rename_i hidle
    cases h
    exact .closes ha (.inl hidle)
  · rename_i hbusy
    split at h
    · rename_i hdue
      cases h
      exact .closes ha (.inr hdue)
    · split at h
      · rename_i hpoll
        cases h
        refine .polls ha ?_
        cases hidle : s.processor.isIdle b.state with
        | true => exact absurd ⟨hpoll, hidle⟩ hbusy
        | false => rfl
      · cases h

/-- Every step is one of these. -/
theorem step_inv {seen : List Occurrence} (h : b.step s t = some (seen, b')) : Steps s b t seen b' := by
  unfold step at h
  cases ha : b.activity? t with
  | none =>
    rw [ha] at h
    cases h
  | some a =>
    rw [ha] at h
    cases a with
    | reader => exact stepReader_inv h ha
    | dispatcher => exact stepDispatcher_inv h ha
    | writer phase => exact stepWriter_inv h ha
    | routine r =>
      have hsteps := stepRoutine_steps (s := s) ha
      rwa [Option.some.inj h] at hsteps
    | sleeping deadline rest =>
      simp only [Option.ite_none_right_eq_some] at h
      obtain ⟨-, h⟩ := h
      cases h
      exact .resumes ha rfl nofun
    | awaiting token rest =>
      simp only [Option.ite_none_right_eq_some] at h
      obtain ⟨-, h⟩ := h
      cases h
      exact .resumes ha rfl nofun
    | watch deadline nextPoll => exact stepWatch_inv h ha

/-! ## What every step keeps -/

variable {x : Effect Op} {seen : List Occurrence}

/-- What an effect can do to a bridge. -/
inductive Alters (b : Bridge R σ) : List Occurrence → Bridge R σ → Prop
  | acts (state) : Alters b [] { b with state }
  | pushes (e) (receiver : b.receiver = true) : Alters b [.pushed e] { b with queue := b.queue ++ [e] }
  | refuses (e) (receiver : b.receiver = false) : Alters b [.refused e] b
  | closes : Alters b [] { b with shutdown := true }
  | watches (deadline nextPoll) : Alters b [] (b.spawn (.watch deadline nextPoll))

theorem perform_alters (p : Processor R σ) (x : Effect Op) (b : Bridge R σ) :
    Alters b (perform p x b).1 (perform p x b).2.2 := by
  cases x with
  | own op => exact .acts _
  | now | isClosed => exact .acts b.state
  | push e =>
    show Alters b (b.push e).1 (b.push e).2.2
    unfold push
    split
    · exact .pushes e ‹_›
    · exact .refuses e (Bool.eq_false_of_not_eq_true ‹_›)
  | close => exact .closes
  | watch graceMs => exact .watches _ _

theorem Alters.activity? (h : Alters b seen b') (ht : t < b.nextTask) : b'.activity? t = b.activity? t := by
  cases h with
  | watches => exact activity?_spawn_of_lt ht _
  | _ => rfl

theorem Alters.nextTask (h : Alters b seen b') : b.nextTask ≤ b'.nextTask := by
  cases h with
  | watches => exact Nat.le_succ _
  | _ => exact le_rfl

theorem Alters.numbered (h : Alters b seen b') (hn : b.Numbered) : b'.Numbered := by
  cases h with
  | watches => exact hn.spawn _
  | _ => exact hn

theorem Alters.shutdown (h : Alters b seen b') (hs : b.shutdown = true) : b'.shutdown = true := by
  cases h with
  | closes => rfl
  | _ => exact hs

theorem Alters.inbox (h : Alters b seen b') : b'.inbox = b.inbox := by
  cases h <;> rfl

theorem Alters.inbound (h : Alters b seen b') : b'.inbound = b.inbound := by
  cases h <;> rfl

theorem Alters.receiver (h : Alters b seen b') : b'.receiver = b.receiver := by
  cases h <;> rfl

theorem Alters.received (h : Alters b seen b') : received seen = [] := by
  cases h <;> rfl

theorem Steps.active (h : Steps s b t seen b') : ∃ a, b.activity? t = some a := by
  cases h <;> exact ⟨_, by assumption⟩

theorem Steps.lt (h : Steps s b t seen b') (hn : b.Numbered) : t < b.nextTask := by
  obtain ⟨a, ha⟩ := h.active
  exact hn.lt ha

theorem Steps.numbered (h : Steps s b t seen b') (hn : b.Numbered) : b'.Numbered := by
  have ht := h.lt hn
  cases h with
  | reads | writes => exact hn
  | dispatches => exact Numbered.spawn (b := { b with inbound := _ }) hn _
  | asks => exact ((perform_alters ..).numbered hn).become (lt_of_lt_of_le ht (perform_alters ..).nextTask) _
  | fails => exact Numbered.become (b := { b with queue := _, shutdown := _ }) hn ht _
  | leaves => exact Numbered.become (b := { b with queue := _, receiver := _, shutdown := _ }) hn ht _
  | turns | suspends | resumes | polls => exact hn.become ht _
  | _ => exact fun x hx => hn x (List.mem_filter.1 hx).1

/-- A task does not touch the others. -/
theorem Steps.others (h : Steps s b t seen b') (hne : t' ≠ t) (ht : t' < b.nextTask) :
    b'.activity? t' = b.activity? t' := by
  cases h with
  | reads | writes => rfl
  | dispatches => exact activity?_spawn_of_lt (b := { b with inbound := _ }) ht _
  | asks => exact (activity?_become_of_ne hne _).trans ((perform_alters ..).activity? ht)
  | fails | leaves | turns | suspends | resumes | polls => exact activity?_become_of_ne hne _
  | _ => exact activity?_finish_of_ne hne

theorem Steps.nextTask (h : Steps s b t seen b') : b.nextTask ≤ b'.nextTask := by
  cases h with
  | dispatches => exact Nat.le_succ _
  | asks => exact (perform_alters ..).nextTask
  | _ => exact le_rfl

/-- A stream that is shut down stays so. -/
theorem Steps.shutdown (h : Steps s b t seen b') (hs : b.shutdown = true) : b'.shutdown = true := by
  cases h with
  | asks => exact (perform_alters ..).shutdown hs
  | readerEnds | fails | leaves | closes => rfl
  | _ => exact hs

/-- What the step of a task asks for, if it does. -/
def exchange? (p : Processor R σ) (b : Bridge R σ) (t : Nat) : Option (Exchange R) :=
  match b.activity? t with
  | some (.routine (.call x _)) => some ⟨x, (perform p x b).2.1⟩
  | _ => none

theorem exchange?_call {k : x.Reply R → Work R Unit} (h : b.activity? t = some (.routine (.call x k))) :
    b.exchange? p t = some ⟨x, (perform p x b).2.1⟩ := by
  unfold exchange?
  rw [h]

theorem exchange?_other (h : ∀ x k, b.activity? t ≠ some (.routine (.call x k))) : b.exchange? p t = none := by
  unfold exchange?
  split
  · rename_i x k ha
    exact absurd ha (h x k)
  · rfl

/-- The envelope that the step of a task starts another task for. -/
def job? (b : Bridge R σ) (t : Nat) : Option Envelope :=
  match b.activity? t with
  | some .dispatcher => b.inbound.head?
  | _ => none

end Bridge

/-! ## Chronicles -/

/-- What can come next: a step of a task, or something from outside. -/
inductive Move {Op : Type} (R : Op → Type) where
  | step (t : Nat)
  | deliver (items : List (Except String Envelope))
  | hangUp
  | shutDown
  | tick
  /-- Another task is started, which may send what it likes. -/
  | start (r : Work R Unit)

structure Chronicle {Op : Type} (R : Op → Type) (σ : Type) where
  bridge : Bridge R σ
  seen : List Occurrence
  /-- What the tasks have asked for and were answered, each by its number. -/
  asked : List (Nat × Exchange R) := []
  /-- The tasks that were started for envelopes. -/
  jobs : List (Nat × Envelope) := []
  /-- What the host has sent. -/
  sent : List (Except String Envelope) := []

namespace Chronicle

variable {s : Stream R σ} {x : Chronicle R σ} {t : Nat}

/-- A stream that is opened, or that was shut down before. -/
def opening (s : Stream R σ) (state : σ) (shutdown : Bool) : Chronicle R σ :=
  let (seen, bridge) := Bridge.opening s { state, shutdown }
  { bridge, seen }

/-- Takes down a step. -/
def advance (s : Stream R σ) (x : Chronicle R σ) (t : Nat) (seen : List Occurrence) (b : Bridge R σ) :
    Chronicle R σ :=
  { x with
    bridge := b
    seen := x.seen ++ seen
    asked := x.asked ++ (x.bridge.exchange? s.processor t).toList.map (t, ·)
    jobs := x.jobs ++ (x.bridge.job? t).toList.map (x.bridge.nextTask, ·) }

/-- A task that cannot go on stays where it is. -/
def act (s : Stream R σ) (x : Chronicle R σ) : Move R → Chronicle R σ
  | .step t =>
    match x.bridge.step s t with
    | some (seen, b) => x.advance s t seen b
    | none => x
  | .deliver items =>
    { x with bridge := x.bridge.deliver items, sent := x.sent ++ if x.bridge.ended then [] else items }
  | .hangUp => { x with bridge := x.bridge.hangUp }
  | .shutDown => { x with bridge := x.bridge.shutDown }
  | .tick => { x with bridge := x.bridge.tick }
  | .start r => { x with bridge := x.bridge.spawn (.routine r) }

def run (s : Stream R σ) (x : Chronicle R σ) (moves : List (Move R)) : Chronicle R σ := moves.foldl (act s) x

/-- What holds at first and is kept by every move holds in the end. -/
theorem run_keeps {P : Chronicle R σ → Prop} (hact : ∀ y m, P y → P (act s y m)) (h : P x) :
    ∀ moves, P (x.run s moves) := by
  intro moves
  induction moves generalizing x with
  | nil => exact h
  | cons m moves ih => exact ih (hact x m h)

theorem act_step {P : Chronicle R σ → Prop} (h : P x)
    (hstep : ∀ seen b, Bridge.Steps s x.bridge t seen b → P (x.advance s t seen b)) : P (act s x (.step t)) := by
  unfold act
  dsimp only
  split
  · rename_i seen b hb
    exact hstep seen b (Bridge.step_inv hb)
  · exact h

/-- What the host sends is left in the inbox. -/
theorem act_deliver (x : Chronicle R σ) (items : List (Except String Envelope)) :
    ∃ inbox sent, act s x (.deliver items) = { x with bridge := { x.bridge with inbox }, sent } := by
  unfold act
  dsimp only
  unfold Bridge.deliver
  split
  · exact ⟨x.bridge.inbox, _, rfl⟩
  · exact ⟨_, _, rfl⟩

theorem act_shutdown (m : Move R) (h : x.bridge.shutdown = true) : (act s x m).bridge.shutdown = true := by
  cases m with
  | step t => exact act_step (P := fun y => y.bridge.shutdown = true) h fun _ _ hs => hs.shutdown h
  | deliver items =>
    obtain ⟨inbox, sent, hact⟩ := act_deliver (s := s) x items
    rw [hact]
    exact h
  | shutDown => rfl
  | _ => exact h

theorem run_shutdown (moves : List (Move R)) (h : x.bridge.shutdown = true) :
    (x.run s moves).bridge.shutdown = true :=
  run_keeps (P := fun y => y.bridge.shutdown = true) (fun _ m h => act_shutdown m h) h moves

end Chronicle

end FunctionWorker
