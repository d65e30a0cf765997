/-
The end of a worker's stream. A termination request closes the worker at once and leaves it to a watching
task to shut the stream down, when it finds no registration at a poll or when the time is up. A
registration is taken out some steps before the response is sent, and an invocation of the same id takes
it over, so a response is sure to be taken only if no poll comes in between.
-/
import FunctionWorker.Proofs.Bridge.Faithful
import FunctionWorker.Proofs.World.Registrations
import FunctionWorker.Worker.Serve

namespace FunctionWorker

/-! ## Why a stream is shut down -/

inductive Cause where
  | outside
  | reader
  | writer
  /-- A task that is none of the loops closed it. -/
  | task
  /-- The time of a watching task was up. -/
  | expired
  /-- A watching task found the processor idle. -/
  | drained
deriving DecidableEq, Repr

section

variable {Op : Type} {R : Op → Type} {σ : Type} {s : Stream R σ} {b b' : Bridge R σ} {x : Chronicle R σ}
  {m : Move R} {moves : List (Move R)} {t : Nat} {seen : List Occurrence}

def Bridge.causeOf (b : Bridge R σ) (t : Nat) : Cause :=
  match b.activity? t with
  | some .reader => .reader
  | some (.writer _) => .writer
  | some (.watch deadline _) => if deadline ≤ b.clock then .expired else .drained
  | _ => .task

/-- The envelope that a task is about to push. -/
def Bridge.pushing? (b : Bridge R σ) (t : Nat) : Option Envelope :=
  match b.activity? t with
  | some (.routine (.call (.push e) _)) => some e
  | _ => none

theorem Bridge.pushing?_inv {e : Envelope} (h : b.pushing? t = some e) :
    ∃ k, b.activity? t = some (.routine (.call (.push e) k)) := by
  unfold pushing? at h
  split at h
  · rename_i e' k ha
    cases h
    exact ⟨k, ha⟩
  · cases h

theorem Bridge.causeOf_drained (h : b.causeOf t = .drained) :
    ∃ deadline nextPoll, b.activity? t = some (.watch deadline nextPoll) ∧ b.clock < deadline := by
  unfold causeOf at h
  split at h
  · cases h
  · cases h
  · rename_i deadline nextPoll ha
    split at h
    · cases h
    · exact ⟨deadline, nextPoll, ha, by omega⟩
  · cases h

/-- A step of a watching task before its deadline that shuts the stream down. -/
theorem Bridge.Steps.watched {deadline nextPoll : Nat} (h : b.Steps s t seen b')
    (ha : b.activity? t = some (.watch deadline nextPoll)) (hlt : b.clock < deadline)
    (hopen : b.shutdown = false) (hshut : b'.shutdown = true) : s.processor.isIdle b.state = true := by
  cases h with
  | closes watching due =>
    obtain ⟨rfl, rfl⟩ := Activity.watch.inj (Option.some.inj (watching.symm.trans ha))
    rcases due with ⟨-, hidle⟩ | hdue
    · exact hidle
    · omega
  | polls =>
    rw [show b.shutdown = true from hshut] at hopen
    cases hopen
  | resumes held work =>
    obtain rfl := Option.some.inj (held.symm.trans ha)
    cases work
  | reads held | readerEnds held | dispatches held | dispatcherEnds held | writes held | fails held
    | turns held | leaves held | joins held | asks held | ends held | panics held | suspends held =>
    rw [held] at ha
    cases ha

theorem Bridge.Steps.attached (h : b.Steps s t seen b') (hb : b.receiver = false → b.shutdown = true)
    (hr : b'.receiver = false) : b'.shutdown = true := by
  cases h with
  | asks => exact (perform_alters ..).shutdown (hb ((perform_alters ..).receiver.symm.trans hr))
  | readerEnds | fails | leaves | closes => rfl
  | _ => exact hb hr

namespace Chronicle

/-- Why the stream is shut down by a move, if it is. -/
def cause? (s : Stream R σ) (x : Chronicle R σ) (m : Move R) : Option Cause :=
  if x.bridge.shutdown = false ∧ (x.act s m).bridge.shutdown = true then
    match m with
    | .step t => some (x.bridge.causeOf t)
    | _ => some .outside
  else none

/-- Whether a move is a poll. -/
def polls (x : Chronicle R σ) (m : Move R) : Bool :=
  match m with
  | .step t =>
    match x.bridge.activity? t with
    | some (.watch _ _) => true
    | _ => false
  | _ => false

/-- What holds of every move of a run, with the chronicle that it finds. -/
def Throughout (s : Stream R σ) (P : Chronicle R σ → Move R → Prop) : Chronicle R σ → List (Move R) → Prop
  | _, [] => True
  | x, m :: moves => P x m ∧ Throughout s P (x.act s m) moves

instance Throughout.decidable {P : Chronicle R σ → Move R → Prop} [∀ x m, Decidable (P x m)] :
    ∀ x moves, Decidable (Throughout s P x moves)
  | _, [] => .isTrue trivial
  | x, m :: moves => @instDecidableAnd _ _ inferInstance (Throughout.decidable (x.act s m) moves)

theorem Throughout.keeps {P : Chronicle R σ → Move R → Prop} {Q : Chronicle R σ → Prop}
    (h : Throughout s P x moves) (hact : ∀ y m, P y m → Q y → Q (y.act s m)) (hx : Q x) : Q (x.run s moves) := by
  induction moves generalizing x with
  | nil => exact hx
  | cons m moves ih => exact ih h.2 (hact x m h.1 hx)

theorem act_open (h : x.bridge.shutdown = false) (hc : x.cause? s m = none) :
    (x.act s m).bridge.shutdown = false := by
  refine Bool.eq_false_of_not_eq_true fun hshut => ?_
  unfold cause? at hc
  rw [if_pos ⟨h, hshut⟩] at hc
  split at hc <;> cases hc

/-- A watching task whose time is not up shuts the stream down only if it finds the processor idle. -/
theorem cause?_drained (h : x.cause? s m = some .drained) :
    x.polls m = true ∧ s.processor.isIdle x.bridge.state = true := by
  unfold cause? at h
  split at h
  · rename_i hshuts
    split at h
    · rename_i t
      obtain ⟨hopen, hshut⟩ := hshuts
      obtain ⟨deadline, nextPoll, ha, hlt⟩ := Bridge.causeOf_drained (Option.some.inj h)
      refine ⟨by simp only [polls, ha], ?_⟩
      refine act_step (P := fun y => y.bridge.shutdown = true → s.processor.isIdle x.bridge.state = true)
        (fun h => ?_) (fun _ _ hs hshut => hs.watched ha hlt hopen hshut) hshut
      rw [hopen] at h
      cases h
    · cases h
  · cases h

/-- Nobody shuts the stream down, but for a watching task whose time is not up. -/
def LeftToWatch (s : Stream R σ) (x : Chronicle R σ) (m : Move R) : Prop :=
  x.cause? s m = none ∨ x.cause? s m = some .drained

instance (s : Stream R σ) (x : Chronicle R σ) (m : Move R) : Decidable (LeftToWatch s x m) :=
  inferInstanceAs (Decidable (_ ∨ _))

/-- The stream goes on while the processor is not idle when it is polled. -/
theorem LeftToWatch.act_open (h : LeftToWatch s x m) (hopen : x.bridge.shutdown = false)
    (hbusy : x.polls m = true → s.processor.isIdle x.bridge.state = false) :
    (x.act s m).bridge.shutdown = false := by
  rcases h with hnone | hdrained
  · exact Chronicle.act_open hopen hnone
  · obtain ⟨hpolls, hidle⟩ := cause?_drained hdrained
    rw [hbusy hpolls] at hidle
    cases hidle

/-- Up to the shutdown the queue has a receiver. -/
def Attached (x : Chronicle R σ) : Prop := x.bridge.receiver = false → x.bridge.shutdown = true

theorem Attached.act (h : Attached x) (m : Move R) : Attached (x.act s m) := by
  cases m with
  | step t => exact act_step (P := Attached) h fun _ _ hs => hs.attached h
  | deliver items =>
    obtain ⟨inbox, sent, hact⟩ := act_deliver (s := s) x items
    rw [hact]
    exact h
  | shutDown => exact fun _ => rfl
  | _ => exact h

theorem run_attached (quiet : Work.Quiet s.processor.start) (state : σ) (shutdown : Bool) (moves : List (Move R)) :
    Attached ((opening s state shutdown).run s moves) := by
  refine run_keeps (fun _ m h => h.act m) ?_ moves
  refine opening_of_opens (P := Attached) quiet fun seen b hopens => ?_
  cases hopens with
  | greets | starts => exact nofun
  | refuses => exact fun _ => rfl

/-- What is pushed is taken as long as the stream is not shut down. -/
theorem Attached.act_push {e : Envelope} (h : Attached x) (hopen : x.bridge.shutdown = false)
    (hpushing : x.bridge.pushing? t = some e) : (x.act s (.step t)).seen = x.seen ++ [.pushed e] := by
  obtain ⟨k, ha⟩ := Bridge.pushing?_inv hpushing
  have hreceiver : x.bridge.receiver = true := by
    refine Bool.eq_true_of_not_eq_false fun hr => ?_
    rw [h hr] at hopen
    cases hopen
  have hpush : x.bridge.push e = ([.pushed e], true, { x.bridge with queue := x.bridge.queue ++ [e] }) :=
    if_pos hreceiver
  unfold Chronicle.act Bridge.step
  dsimp only
  rw [ha]
  show (x.advance s t (x.bridge.push e).1 _).seen = _
  rw [hpush]
  rfl

end Chronicle

/-- The state of a processor changes by its own operations. -/
theorem Bridge.Steps.state (h : b.Steps s t seen b') :
    b'.state = b.state ∨ ∃ op k, b.activity? t = some (.routine (.call (.own op) k)) ∧
      b'.state = (s.processor.perform op b.state).2 := by
  cases h with
  | @asks x k routine =>
    cases x with
    | own op => exact .inr ⟨op, k, routine, rfl⟩
    | push e =>
      refine .inl ?_
      show (b.push e).2.2.state = b.state
      unfold push
      split <;> rfl
    | _ => exact .inl rfl
  | _ => exact .inl rfl

end

/-! ## Registrations and polls -/

variable {w : World} {reg : Registration} {x : Chronicle Op.Reply World} {m : Move Op.Reply}

/-- Whether an operation takes a registration out or puts one of the same id in its place. -/
def Op.unseats (reg : Registration) : Op → Bool
  | .insertRegistration r => r.invocationId = reg.invocationId
  | .removeRegistration r => r = reg
  | _ => false

theorem registered_kept {op : Op} (h : w.Registered reg) (hop : op.unseats reg = false) :
    (World.perform op w).2.Registered reg := by
  by_cases hinsert : ∃ r, op = .insertRegistration r
  · obtain ⟨r, rfl⟩ := hinsert
    have hid : r.invocationId ≠ reg.invocationId := of_decide_eq_false hop
    exact (registered_insert hid.symm w).2 h
  · by_cases hremove : ∃ r, op = .removeRegistration r
    · obtain ⟨r, rfl⟩ := hremove
      have hne : r ≠ reg := of_decide_eq_false hop
      exact (registered_remove hne.symm w).2 h
    · unfold World.Registered
      rw [entries_perform (not_exists.1 hinsert) (not_exists.1 hremove)]
      exact h

namespace Chronicle

def unseats (reg : Registration) (x : Chronicle Op.Reply World) (m : Move Op.Reply) : Bool :=
  match m with
  | .step t =>
    match x.bridge.activity? t with
    | some (.routine (.call (.own op) _)) => op.unseats reg
    | _ => false
  | _ => false

end Chronicle

namespace Worker

variable {v : Worker}

theorem act_registered (h : x.bridge.state.Registered reg) (hm : x.unseats reg m = false) :
    (x.act v.stream m).bridge.state.Registered reg := by
  cases m with
  | step t =>
    refine Chronicle.act_step (P := fun y : Chronicle _ World => y.bridge.state.Registered reg) h fun seen b hs => ?_
    rcases hs.state with hsame | ⟨op, k, ha, hstate⟩
    · show b.state.Registered reg
      rw [hsame]
      exact h
    · have hop : op.unseats reg = false := by
        unfold Chronicle.unseats at hm
        dsimp only at hm
        rwa [ha] at hm
      show b.state.Registered reg
      rw [hstate]
      exact registered_kept h hop
  | deliver items =>
    obtain ⟨inbox, sent, hact⟩ := Chronicle.act_deliver (s := v.stream) x items
    rw [hact]
    exact h
  | _ => exact h

theorem busy_of_registered (h : w.Registered reg) : v.processor.isIdle w = false := by
  show w.cancellations.entries.isEmpty = false
  rw [List.isEmpty_eq_false_iff]
  exact List.ne_nil_of_mem h

/-- What is sent is taken before the stream is shut down, if a registration stands up to some moment and
no poll comes between that moment and the sending; given that only watching tasks shut the stream down,
and their time is not up. -/
theorem terminate_awaits {world : World} {before standing after : List (Move Op.Reply)} {t : Nat} {e : Envelope}
    (hx : x = (Chronicle.opening v.stream world false).run v.stream before)
    (going : x.bridge.shutdown = false) (registered : x.bridge.state.Registered reg)
    (stands : x.Throughout v.stream (fun y m => y.LeftToWatch v.stream m ∧ y.unseats reg m = false) standing)
    (sends : (x.run v.stream standing).Throughout v.stream
      (fun y m => y.LeftToWatch v.stream m ∧ y.polls m = false) after)
    (pushing : ((x.run v.stream standing).run v.stream after).bridge.pushing? t = some e) :
    ((x.run v.stream standing).run v.stream after).bridge.shutdown = false ∧
      (((x.run v.stream standing).run v.stream after).act v.stream (.step t)).seen =
        ((x.run v.stream standing).run v.stream after).seen ++ [.pushed e] := by
  -- a poll finds the processor busy as long as the registration stands
  have hstands := stands.keeps (Q := fun y => y.bridge.shutdown = false ∧ y.bridge.state.Registered reg)
    (fun y m hm hy => ⟨hm.1.act_open hy.1 fun _ => busy_of_registered hy.2, act_registered hy.2 hm.2⟩)
    ⟨going, registered⟩
  -- the registration may be taken out now, but no poll sees it
  have hsends := sends.keeps (Q := fun y => y.bridge.shutdown = false)
    (fun y m hm hy => hm.1.act_open hy fun hpolls => by
      rw [hm.2] at hpolls
      cases hpolls)
    hstands.1
  have hattached : ((x.run v.stream standing).run v.stream after).Attached := by
    rw [hx]
    unfold Chronicle.run
    rw [← List.foldl_append, ← List.foldl_append]
    exact Chronicle.run_attached v.start_quiet world false _
  exact ⟨hsends, hattached.act_push hsends pushing⟩

end Worker

/-! ## A worker that is terminated -/

namespace Clerk

/-- A worker with a function that does nothing. -/
def worker : Worker where
  options := { workerId := "w-1" }
  invoker := { pipeline := { handlers := fun _ _ => .done (.ok {}) } }

def world : World where
  functions := ⟨[{ id := "f", name := "file", entryPoint := "file", handler := 0 }]⟩
  state := .ready

def greeting : Envelope := .make 0 "" (.startStream "w-1")

/-- A request with an id of its own for the invocation `i`. -/
def request (id : String) : Envelope :=
  .make 0 id (.invocationRequest { invocationId := "i", functionId := "f" })

def response (id : String) (now : UInt64) : Envelope :=
  .make now id (.invocationResponse ⟨"i", [], none, .success, none, none⟩)

def farewell : Envelope := .make 0 "t" (.terminate 1000)

def steps (t n : Nat) : List (Move Op.Reply) := List.replicate n (.step t)

/-- The host sends, every envelope is passed on to a task, and the first of them registers the invocation. -/
def registered (envelopes : List Envelope) : Chronicle Op.Reply World :=
  (Chronicle.opening worker.stream world false).run worker.stream
    (.deliver (envelopes.map .ok) :: steps 1 envelopes.length ++ steps 2 envelopes.length ++ steps 3 4)

/-- The worker is terminated, and polls find the registration, once at first and once when the invocation
is about to take it out. -/
def awaiting : List (Move Op.Reply) :=
  steps 4 3 ++ steps 5 1 ++ steps 3 12 ++ List.replicate 10 .tick ++ steps 5 1

theorem terminate_awaits_clerk :
    let y := (registered [request "a", farewell]).run worker.stream awaiting
    let z := y.run worker.stream (steps 3 6)
    z.bridge.shutdown = false ∧ z.bridge.state.state = .closed ∧
      (z.act worker.stream (.step 3)).seen = z.seen ++ [.pushed (response "a" 10000000)] := by
  have h := Worker.terminate_awaits (v := worker) (x := registered [request "a", farewell]) (t := 3)
    (e := response "a" 10000000) rfl (by decide +kernel)
    (show World.Registered _ ⟨"i", 0⟩ by decide +kernel)
    (show Chronicle.Throughout _ _ _ awaiting by decide +kernel)
    (show Chronicle.Throughout _ _ _ (steps 3 6) by decide +kernel) (by decide +kernel)
  exact ⟨h.1, by decide +kernel, h.2⟩

/-- Moves after which the response of the invocation was refused, though its time was not up and nobody
but the watching task shut the stream down: `later` begins when the worker has not been terminated. -/
def Refused (x : Chronicle Op.Reply World) (later : List (Move Op.Reply)) : Prop :=
  x.bridge.state.state = .ready ∧ x.bridge.state.Registered ⟨"i", 0⟩ ∧ x.bridge.shutdown = false ∧
    x.Throughout worker.stream (fun y m => y.LeftToWatch worker.stream m) later ∧
    (x.run worker.stream later).bridge.clock < 1000 ∧
    ((x.run worker.stream later).bridge.activity? 3).isNone ∧
    (3, request "a") ∈ (x.run worker.stream later).jobs ∧
    response "a" 0 ∉ pushed (x.run worker.stream later).seen

instance (x : Chronicle Op.Reply World) (later : List (Move Op.Reply)) : Decidable (Refused x later) :=
  inferInstanceAs (Decidable (_ ∧ _))

/-- An invocation of the same id takes the registration over, and is over itself before the poll. -/
def replacing : List (Move Op.Reply) := steps 4 24 ++ steps 5 3 ++ steps 6 1 ++ steps 3 20

/-- The poll comes when the registration is taken out and the response is not sent yet. -/
def late : List (Move Op.Reply) := steps 4 3 ++ steps 3 13 ++ steps 5 1 ++ steps 3 6

theorem terminate_drops :
    Refused (registered [request "a", request "b", farewell]) replacing ∧
      Refused (registered [request "a", farewell]) late := by
  constructor
  · decide +kernel
  · decide +kernel

end Clerk

end FunctionWorker
