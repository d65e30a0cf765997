/-
The outbound queue. Whoever pushes and whenever, the sink is handed what was pushed in the order in which
it was pushed. What is pushed is the envelope that opens the stream, and then what tasks send.
-/
import FunctionWorker.Proofs.Bridge.Chronicle

namespace FunctionWorker

variable {Op : Type} {R : Op → Type} {σ α : Type} {s : Stream R σ} {p : Processor R σ} {b b' : Bridge R σ}
  {seen more : List Occurrence} {t : Nat} {e : Envelope}

/-! ## From the queue to the sink -/

/-- How the queue stands between those who push and the sink. Once it has no receiver, what was left on it
is not handed over any more. -/
structure Flow (seen : List Occurrence) (b : Bridge R σ) : Prop where
  queued : b.receiver = true → pushed seen = handed seen ++ b.queue
  dropped : b.receiver = false → b.queue = []
  inOrder : handed seen <+: pushed seen

theorem Flow.same (h : Flow seen b) (hq : b'.queue = b.queue) (hr : b'.receiver = b.receiver) : Flow seen b' :=
  ⟨fun hb => hq ▸ h.queued (hr ▸ hb), fun hb => hq ▸ h.dropped (hr ▸ hb), h.inOrder⟩

theorem Flow.quiet (h : Flow seen b) (hp : pushed more = []) (hh : handed more = []) : Flow (seen ++ more) b := by
  have hpushed : pushed (seen ++ more) = pushed seen := by rw [pushed_append, hp, List.append_nil]
  have hhanded : handed (seen ++ more) = handed seen := by rw [handed_append, hh, List.append_nil]
  refine ⟨fun hb => ?_, h.dropped, ?_⟩
  · rw [hpushed, hhanded]
    exact h.queued hb
  · rw [hpushed, hhanded]
    exact h.inOrder

/-- What is pushed joins the end of the queue. -/
theorem Flow.alters (h : Flow seen b) (ha : b.Alters more b') : Flow (seen ++ more) b' := by
  cases ha with
  | pushes e hr =>
    have hpushed : pushed (seen ++ [.pushed e]) = handed (seen ++ [.pushed e]) ++ (b.queue ++ [e]) := by
      rw [pushed_append, handed_append, h.queued hr]
      simp [pushed, handed, Occurrence.pushed?, Occurrence.handed?]
    exact ⟨fun _ => hpushed, fun hn => absurd hr (by rw [hn]; exact Bool.false_ne_true),
      hpushed ▸ List.prefix_append _ _⟩
  | _ => exact (h.quiet rfl rfl).same rfl rfl

/-- What the sink is handed is the first envelope of the queue. -/
theorem Flow.hand {rest : List Envelope} (h : Flow seen b) (hqueue : b.queue = e :: rest)
    (hp : pushed more = []) (hh : handed more = [e]) (hq : b'.queue = rest) (hr : b'.receiver = b.receiver) :
    Flow (seen ++ more) b' := by
  have hreceiver : b.receiver = true := by
    cases hb : b.receiver with
    | true => rfl
    | false =>
      rw [h.dropped hb] at hqueue
      cases hqueue
  have hpushed : pushed (seen ++ more) = handed (seen ++ more) ++ b'.queue := by
    rw [pushed_append, handed_append, hp, hh, hq, h.queued hreceiver, hqueue]
    simp
  refine ⟨fun _ => hpushed, fun hn => ?_, hpushed ▸ List.prefix_append _ _⟩
  rw [hr, hreceiver] at hn
  cases hn

theorem Flow.step (h : Flow seen b) (hs : b.Steps s t more b') : Flow (seen ++ more) b' := by
  cases hs with
  | writes _ _ queue | fails _ _ queue => exact h.hand queue rfl rfl rfl rfl
  | asks => exact (h.alters (Bridge.perform_alters ..)).same rfl rfl
  | leaves =>
    rw [List.append_nil]
    exact ⟨nofun, fun _ => rfl, h.inOrder⟩
  | _ => exact (h.quiet rfl rfl).same rfl rfl

/-! ## What is pushed -/

theorem push_pushed (e : Envelope) (b : Bridge R σ) :
    pushed (b.push e).1 = if (b.push e).2.1 then [e] else [] := by
  unfold Bridge.push
  split <;> rfl

/-- What an effect pushes is what the queue took. -/
theorem perform_pushed (x : Effect Op) (b : Bridge R σ) :
    pushed (Bridge.perform p x b).1 = (Exchange.taken? ⟨x, (Bridge.perform p x b).2.1⟩).toList := by
  cases x with
  | push e =>
    refine (push_pushed e b).trans ?_
    show _ = Option.toList (if (b.push e).2.1 = true then some e else none)
    split <;> rfl
  | _ => rfl

theorem taken_tagged (t : Nat) (x : Option (Exchange R)) :
    taken (x.toList.map (t, ·)) = (x.bind (·.taken?)).toList := by
  cases x with
  | none => rfl
  | some x =>
    show taken [(t, x)] = x.taken?.toList
    unfold taken
    cases h : x.taken? <;> simp [h]

/-- Nothing is pushed but what a task asked for. -/
theorem Bridge.Steps.pushed (h : b.Steps s t more b') :
    pushed more = taken ((b.exchange? s.processor t).toList.map (t, ·)) := by
  have hnone (hx : b.exchange? s.processor t = none) :
      taken ((b.exchange? s.processor t).toList.map (t, ·)) = [] := by
    rw [hx]
    rfl
  cases h with
  | asks routine => rw [perform_pushed, taken_tagged, exchange?_call routine, Option.bind_some]
  | resumes waiting _ held =>
    refine (hnone (exchange?_other fun x k h => ?_)).symm
    exact held _ (Option.some.inj (waiting.symm.trans h))
  | _ =>
    refine (hnone (exchange?_other fun x k h => ?_)).symm
    simp_all

/-- Where there is no receiver, nothing is pushed any more. -/
theorem Bridge.Alters.refused (h : b.Alters more b') (hr : b.receiver = false) :
    pushed more = [] ∧ b'.receiver = false := by
  cases h with
  | pushes e receiver =>
    rw [hr] at receiver
    cases receiver
  | _ => exact ⟨rfl, hr⟩

theorem Bridge.Steps.refused (h : b.Steps s t more b') (hr : b.receiver = false) :
    FunctionWorker.pushed more = [] ∧ b'.receiver = false := by
  cases h with
  | asks => exact (perform_alters ..).refused hr
  | leaves => exact ⟨rfl, rfl⟩
  | _ => exact ⟨rfl, hr⟩

/-! ## Opening -/

/-- An effect that leaves the stream alone. -/
def Effect.Quiet : Effect Op → Prop
  | .own _ | .now => True
  | _ => False

def Work.Quiet : Work R α → Prop
  | .done _ | .panic _ => True
  | .call x k => x.Quiet ∧ ∀ a, Quiet (k a)
  | .wait _ rest => Quiet rest

theorem perform_quiet {x : Effect Op} (h : x.Quiet) (b : Bridge R σ) :
    ∃ a state, Bridge.perform p x b = ([], a, { b with state }) := by
  cases x with
  | own op => exact ⟨_, _, rfl⟩
  | now => exact ⟨_, b.state, rfl⟩
  | _ => exact h.elim

theorem runNow_quiet : ∀ {r : Work R α} (b : Bridge R σ), Work.Quiet r →
    ∃ a state, Bridge.runNow p r b = ([], a, { b with state })
  | .done a, b, _ => ⟨.ok a, b.state, rfl⟩
  | .panic x, b, _ => ⟨.error x, b.state, rfl⟩
  | .call x k, b, h => by
    obtain ⟨a, state, hx⟩ := perform_quiet (p := p) h.1 b
    obtain ⟨r, state', hk⟩ := runNow_quiet { b with state } (h.2 a)
    refine ⟨r, state', ?_⟩
    rw [Bridge.runNow, hx]
    dsimp only
    rw [hk]
    rfl
  | .wait _ rest, b, h => by
    rw [Bridge.runNow]
    exact runNow_quiet (r := rest) b h

/-- The envelope that the processor opens the stream with, if it has one. -/
def Stream.greeting (s : Stream R σ) (state : σ) (shutdown : Bool) : Option Envelope :=
  match (Bridge.runNow s.processor s.processor.start { state, shutdown }).2.1 with
  | .ok first => first
  | .error _ => none

/-- What it takes for a stream to be opened: a greeting goes on the queue before any task has started,
unless the stream was shut down before, in which case it ends. -/
inductive Opens (s : Stream R σ) (state : σ) : Bool → List Occurrence → Bridge R σ → Prop
  | greets {e state'} (greeting : s.greeting state false = some e) :
      Opens s state false [.pushed e] (Bridge.startLoops { state := state', queue := [e] })
  | refuses {e state'} (greeting : s.greeting state true = some e) :
      Opens s state true []
        { state := state', shutdown := true, receiver := false, result := some (.error .closed) }
  | starts {shutdown state'} (greeting : s.greeting state shutdown = none) :
      Opens s state shutdown [] (Bridge.startLoops { state := state', shutdown })

theorem opens (quiet : Work.Quiet s.processor.start) (state : σ) (shutdown : Bool) :
    Opens s state shutdown (Bridge.opening s { state, shutdown }).1 (Bridge.opening s { state, shutdown }).2 := by
  obtain ⟨first, state', hrun⟩ := runNow_quiet (p := s.processor) { state, shutdown } quiet
  have hgreeting : s.greeting state shutdown = first.toOption.join := by
    unfold Stream.greeting
    rw [hrun]
    cases first <;> rfl
  unfold Bridge.opening
  rw [hrun]
  cases first with
  | error x => exact .starts hgreeting
  | ok e =>
    cases e with
    | none => exact .starts hgreeting
    | some e =>
      cases shutdown with
      | true => exact .refuses hgreeting
      | false => exact .greets hgreeting

/-! ## Runs -/

namespace Chronicle

variable {x : Chronicle R σ} {m : Move R} {state : σ} {shutdown : Bool}

/-- It is enough to look at what there is to opening a stream. -/
theorem opening_of_opens {P : Chronicle R σ → Prop} (quiet : Work.Quiet s.processor.start)
    (h : ∀ seen b, Opens s state shutdown seen b → P ⟨b, seen, [], [], []⟩) : P (opening s state shutdown) :=
  h _ _ (opens quiet state shutdown)

theorem act_flow (h : Flow x.seen x.bridge) (m : Move R) : Flow (x.act s m).seen (x.act s m).bridge := by
  cases m with
  | step t => exact act_step (P := fun y => Flow y.seen y.bridge) h fun _ _ hs => h.step hs
  | deliver items =>
    obtain ⟨inbox, sent, hact⟩ := act_deliver (s := s) x items
    rw [hact]
    exact h.same rfl rfl
  | _ => exact h.same rfl rfl

theorem run_flow (quiet : Work.Quiet s.processor.start) (state : σ) (shutdown : Bool) (moves : List (Move R)) :
    Flow ((opening s state shutdown).run s moves).seen ((opening s state shutdown).run s moves).bridge := by
  refine run_keeps (P := fun y => Flow y.seen y.bridge) (fun _ m h => act_flow h m) ?_ moves
  refine opening_of_opens (P := fun y => Flow y.seen y.bridge) quiet fun seen b hopens => ?_
  cases hopens with
  | greets => exact ⟨fun _ => rfl, nofun, ⟨_, rfl⟩⟩
  | refuses => exact ⟨nofun, fun _ => rfl, List.prefix_rfl⟩
  | starts => exact ⟨fun _ => rfl, nofun, List.prefix_rfl⟩

theorem act_pushed {first : List Envelope} (h : pushed x.seen = first ++ taken x.asked) (m : Move R) :
    pushed (x.act s m).seen = first ++ taken (x.act s m).asked := by
  cases m with
  | step t =>
    refine act_step (P := fun y => pushed y.seen = first ++ taken y.asked) h fun seen b hs => ?_
    show pushed (x.seen ++ seen) = first ++ taken (x.asked ++ _)
    rw [pushed_append, taken_append, h, hs.pushed, List.append_assoc]
  | _ => exact h

theorem act_refused (h : pushed x.seen = [] ∧ x.bridge.receiver = false) (m : Move R) :
    pushed (x.act s m).seen = [] ∧ (x.act s m).bridge.receiver = false := by
  obtain ⟨hp, hr⟩ := h
  cases m with
  | step t =>
    refine act_step (P := fun y => pushed y.seen = [] ∧ y.bridge.receiver = false) ⟨hp, hr⟩ fun seen b hs => ?_
    show pushed (x.seen ++ seen) = [] ∧ b.receiver = false
    rw [pushed_append, hp, List.nil_append]
    exact hs.refused hr
  | deliver items =>
    obtain ⟨inbox, sent, hact⟩ := act_deliver (s := s) x items
    rw [hact]
    exact ⟨hp, hr⟩
  | _ => exact ⟨hp, hr⟩

/-- Where the greeting is refused, nothing is ever pushed. -/
theorem run_refused (quiet : Work.Quiet s.processor.start) (greeting : s.greeting state true = some e)
    (moves : List (Move R)) :
    pushed ((opening s state true).run s moves).seen = [] ∧
      ((opening s state true).run s moves).bridge.receiver = false := by
  refine run_keeps (P := fun y => pushed y.seen = [] ∧ y.bridge.receiver = false) (fun _ m h => act_refused h m)
    ?_ moves
  refine opening_of_opens (P := fun y => pushed y.seen = [] ∧ y.bridge.receiver = false) quiet
    fun seen b hopens => ?_
  cases hopens with
  | refuses => exact ⟨rfl, rfl⟩
  | starts hnone =>
    rw [hnone] at greeting
    cases greeting

/-- What was pushed is the greeting and what tasks have pushed, in order. -/
theorem run_pushed (quiet : Work.Quiet s.processor.start) (state : σ) (shutdown : Bool) (moves : List (Move R)) :
    pushed ((opening s state shutdown).run s moves).seen =
      match s.greeting state shutdown with
      | some e => if shutdown then [] else e :: taken ((opening s state shutdown).run s moves).asked
      | none => taken ((opening s state shutdown).run s moves).asked := by
  have hrun {first : List Envelope} (h : pushed (opening s state shutdown).seen = first) :=
    run_keeps (P := fun y => pushed y.seen = first ++ taken y.asked) (s := s) (fun _ m h => act_pushed h m)
      (h.trans (List.append_nil first).symm) moves
  have hopens := opens quiet state shutdown
  generalize hseen : (Bridge.opening s _).1 = seen, (Bridge.opening s _).2 = b at hopens
  cases hopens with
  | greets greeting =>
    rw [greeting]
    exact hrun (congrArg pushed hseen)
  | refuses greeting =>
    rw [greeting]
    exact (run_refused quiet greeting moves).1
  | starts greeting =>
    rw [greeting]
    exact hrun (congrArg pushed hseen)

end Chronicle

end FunctionWorker
