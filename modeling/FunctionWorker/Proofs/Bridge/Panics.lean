/-
Panics of tasks. A task that has panicked is over, and that is all: whatever goes on besides goes on as if
the task had not taken its last step.
-/
import FunctionWorker.Proofs.Bridge.Tasks

namespace FunctionWorker

variable {Op : Type} {R : Op → Type} {σ : Type} {s : Stream R σ} {p : Processor R σ} {b : Bridge R σ} {t t' : Nat}

namespace Bridge

/-! ## Steps without a task -/

theorem finish_finish (b : Bridge R σ) (t t' : Nat) : (b.finish t).finish t' = (b.finish t').finish t := by
  unfold finish
  simp only [List.filter_filter, Bool.and_comm]

theorem finish_become (b : Bridge R σ) (t t' : Nat) (a : Activity R) :
    (b.finish t).become t' a = (b.become t' a).finish t := by
  show { b with tasks := (b.tasks.filter _).map _ } = { b with tasks := (b.tasks.map _).filter _ }
  congr 1
  rw [List.filter_map]
  congr 1
  refine List.filter_congr fun y _ => ?_
  show _ = decide ((if y.1 = t' then (t', a) else y).1 ≠ t)
  by_cases hy : y.1 = t'
  · rw [if_pos hy, hy]
  · rw [if_neg hy]

theorem finish_spawn (h : t < b.nextTask) (a : Activity R) : (b.finish t).spawn a = (b.spawn a).finish t := by
  show { b with tasks := _, nextTask := _ } = { b with tasks := (b.tasks ++ [_]).filter _, nextTask := _ }
  congr 1
  rw [List.filter_append, List.filter_cons_of_pos (by simpa using h.ne')]
  rfl

/-- What a step comes to when a task is over besides. -/
def dropping (t : Nat) : List Occurrence × Bridge R σ → List Occurrence × Bridge R σ := fun y =>
  (y.1, y.2.finish t)

theorem dropping_finish (c : Bridge R σ) (seen : List Occurrence) :
    (seen, (c.finish t).finish t') = dropping t (seen, c.finish t') :=
  congrArg (Prod.mk seen) (finish_finish c t t')

theorem dropping_become (c : Bridge R σ) (seen : List Occurrence) (a : Activity R) :
    (seen, (c.finish t).become t' a) = dropping t (seen, c.become t' a) :=
  congrArg (Prod.mk seen) (finish_become c t t' a)

theorem stepReader_finish (b : Bridge R σ) (t t' : Nat) :
    (b.finish t).stepReader t' = (b.stepReader t').map (dropping t) := by
  -- what the reader looks at is not touched when a task ends, so both sides split alike
  unfold stepReader
  rw [show (b.finish t).shutdown = b.shutdown from rfl, show (b.finish t).inbox = b.inbox from rfl,
    show (b.finish t).ended = b.ended from rfl]
  split
  · exact congrArg some (dropping_finish { b with readResult := some (.ok ()) } [])
  · split
    · rfl
    · rename_i reason rest _
      exact congrArg some
        (dropping_finish { b with inbox := rest, shutdown := true, readResult := some (.error (.read reason)) } [])
    · split
      · exact congrArg some (dropping_finish { b with shutdown := true, readResult := some (.ok ()) } [])
      · rfl

theorem stepDispatcher_finish (ht : t < b.nextTask) :
    (b.finish t).stepDispatcher p t' = (b.stepDispatcher p t').map (dropping t) := by
  unfold stepDispatcher
  rw [show (b.finish t).inbound = b.inbound from rfl, show (b.finish t).inboundClosed = b.inboundClosed from rfl]
  split
  · rename_i e rest _
    exact congrArg some (congrArg (Prod.mk [Occurrence.dispatched e]) (finish_spawn (b := { b with inbound := rest }) ht _))
  · split
    · exact congrArg some (dropping_finish { b with dispatcherDone := true } [])
    · rfl

theorem writeFirst_finish (s : Stream R σ) (b : Bridge R σ) (t t' : Nat) (e : Envelope) (rest : List Envelope) :
    writeFirst s (b.finish t) t' e rest = dropping t (writeFirst s b t' e rest) := by
  unfold writeFirst
  rw [show (b.finish t).written = b.written from rfl]
  split
  · rfl
  · exact dropping_become { b with queue := rest, shutdown := true } _ _

theorem stepWriter_finish (s : Stream R σ) (b : Bridge R σ) (t t' : Nat) (phase : WriterPhase) :
    (b.finish t).stepWriter s t' phase = (b.stepWriter s t' phase).map (dropping t) := by
  unfold stepWriter
  rw [show (b.finish t).queue = b.queue from rfl, show (b.finish t).shutdown = b.shutdown from rfl,
    show (b.finish t).readResult = b.readResult from rfl,
    show (b.finish t).dispatcherDone = b.dispatcherDone from rfl]
  split
  · split
    · exact congrArg some (writeFirst_finish ..)
    · split
      · exact congrArg some (dropping_become b [] _)
      · rfl
  · split
    · exact congrArg some (writeFirst_finish ..)
    · exact congrArg some (dropping_become b [] _)
  · exact congrArg some (dropping_become b [] _)
  · exact congrArg some (dropping_become { b with queue := [], receiver := false, shutdown := true } [] _)
  · split
    · split
      · exact congrArg some (dropping_finish { b with result := some _ } [])
      · rfl
    · rfl

theorem stepWatch_finish (p : Processor R σ) (b : Bridge R σ) (t t' deadline nextPoll : Nat) :
    (b.finish t).stepWatch p t' deadline nextPoll = (b.stepWatch p t' deadline nextPoll).map (dropping t) := by
  unfold stepWatch
  rw [show (b.finish t).clock = b.clock from rfl, show (b.finish t).state = b.state from rfl]
  split
  · exact congrArg some (dropping_finish { b with shutdown := true } [])
  · split
    · exact congrArg some (dropping_finish { b with shutdown := true } [])
    · split
      · exact congrArg some (dropping_become b [] _)
      · rfl

/-- Effects do not depend on which tasks there are. -/
theorem perform_finish (ht : t < b.nextTask) (x : Effect Op) :
    perform p x (b.finish t) =
      ((perform p x b).1, (perform p x b).2.1, (perform p x b).2.2.finish t) := by
  cases x with
  | push e =>
    show (b.finish t).push e = ((b.push e).1, (b.push e).2.1, (b.push e).2.2.finish t)
    unfold push
    rw [show (b.finish t).receiver = b.receiver from rfl]
    split <;> rfl
  | watch graceMs =>
    exact congrArg (fun c => ([], (), c)) (finish_spawn ht (.watch (b.clock + graceMs) b.clock))
  | _ => rfl

theorem stepRoutine_finish (ht : t < b.nextTask) (r : Work R Unit) :
    (b.finish t).stepRoutine p t' r = dropping t (b.stepRoutine p t' r) := by
  cases r with
  | done | panic => exact dropping_finish b []
  | call x k =>
    simp only [stepRoutine, perform_finish ht]
    exact dropping_become (perform p x b).2.2 _ _
  | wait w rest => cases w <;> exact dropping_become b [] _

/-- A task goes on in the same way when another one is over. -/
theorem step_finish (hne : t' ≠ t) (ht : t < b.nextTask) :
    (b.finish t).step s t' = (b.step s t').map (dropping t) := by
  unfold step
  rw [activity?_finish_of_ne hne]
  split
  · rfl
  · exact stepReader_finish b t t'
  · exact stepDispatcher_finish ht
  · exact stepWriter_finish s b t t' _
  · exact congrArg some (stepRoutine_finish ht _)
  · rw [show (b.finish t).clock = b.clock from rfl]
    split
    · exact congrArg some (dropping_become b [] _)
    · rfl
  · rw [show (b.finish t).state = b.state from rfl]
    split
    · exact congrArg some (dropping_become b [] _)
    · rfl
  · exact stepWatch_finish s.processor b t t' _ _

theorem exchange?_finish (hne : t' ≠ t) (ht : t < b.nextTask) :
    (b.finish t).exchange? p t' = b.exchange? p t' := by
  unfold exchange?
  rw [activity?_finish_of_ne hne]
  split
  · rw [perform_finish ht]
  · rfl

theorem job?_finish (hne : t' ≠ t) : (b.finish t).job? t' = b.job? t' := by
  unfold job?
  rw [activity?_finish_of_ne hne]
  rfl

end Bridge

/-! ## Runs without a task -/

namespace Chronicle

variable {x : Chronicle R σ} {m : Move R}

/-- A chronicle in which a task is over. -/
def without (x : Chronicle R σ) (t : Nat) : Chronicle R σ := { x with bridge := x.bridge.finish t }

theorem act_without (ht : t < x.bridge.nextTask) (hm : m ≠ .step t) :
    (x.without t).act s m = (x.act s m).without t := by
  cases m with
  | step t' =>
    have hne : t' ≠ t := fun heq => hm (congrArg Move.step heq)
    unfold act
    dsimp only
    rw [show (x.without t).bridge = x.bridge.finish t from rfl, Bridge.step_finish hne ht]
    cases hstep : x.bridge.step s t' with
    | none => rfl
    | some y =>
      show (x.without t).advance s t' y.1 (y.2.finish t) = (x.advance s t' y.1 y.2).without t
      unfold advance
      rw [show (x.without t).bridge = x.bridge.finish t from rfl, Bridge.exchange?_finish hne ht,
        Bridge.job?_finish hne]
      rfl
  | deliver items =>
    unfold act without Bridge.deliver
    dsimp only
    rw [show (x.bridge.finish t).ended = x.bridge.ended from rfl]
    split <;> rfl
  | start r => exact congrArg (fun b => { x with bridge := b }) (Bridge.finish_spawn ht _)
  | _ => rfl

theorem act_nextTask (m : Move R) : x.bridge.nextTask ≤ (x.act s m).bridge.nextTask := by
  cases m with
  | step t =>
    exact act_step (P := fun y => x.bridge.nextTask ≤ y.bridge.nextTask) le_rfl fun _ _ hs => hs.nextTask
  | deliver items =>
    obtain ⟨inbox, sent, hact⟩ := act_deliver (s := s) x items
    rw [hact]
  | start r => exact Nat.le_succ _
  | _ => exact le_rfl

/-- Whatever goes on besides goes on as if the task were over. -/
theorem run_without (ht : t < x.bridge.nextTask) (moves : List (Move R)) (hm : .step t ∉ moves) :
    (x.without t).run s moves = (x.run s moves).without t := by
  induction moves generalizing x with
  | nil => rfl
  | cons m moves ih =>
    rw [List.mem_cons, not_or] at hm
    obtain ⟨hne, hm⟩ := hm
    show ((x.without t).act s m).run s moves = ((x.act s m).run s moves).without t
    rw [act_without ht (Ne.symm hne), ih (lt_of_lt_of_le ht (act_nextTask m)) hm]

/-- A task that has panicked does no more than to end. -/
theorem act_panic {e : Panic} (h : x.bridge.activity? t = some (.routine (.panic e))) :
    x.act s (.step t) = x.without t := by
  have hstep : x.bridge.step s t = some ([], x.bridge.finish t) := by
    unfold Bridge.step
    rw [h]
    rfl
  have hasked : x.bridge.exchange? s.processor t = none :=
    Bridge.exchange?_other fun y k heq => by
      rw [h] at heq
      cases heq
  have hjob : x.bridge.job? t = none := Bridge.job?_other (by rw [h]; exact nofun)
  unfold act
  dsimp only
  rw [hstep]
  show x.advance s t [] (x.bridge.finish t) = x.without t
  unfold advance without
  rw [hasked, hjob]
  simp

end Chronicle

end FunctionWorker
