/-
The loops of a stream that goes on. They are where they started, and no other task asks for anything that
has the stream shut down; so a step of any task leaves them there, as long as nothing comes in that
could end the stream and every write succeeds.
-/
import FunctionWorker.Proofs.Bridge.Delivery
import FunctionWorker.Proofs.Worker.Requests

namespace FunctionWorker

variable {Op : Type} {R : Op → Type} {σ : Type} {s : Stream R σ} {b b' : Bridge R σ} {t : Nat} {a : Activity R}
  {r : Work R Unit} {more : List Occurrence}

/-! ## Work that leaves the stream open -/

/-- What work comes to asks for nothing else. -/
theorem Comes.asks_kept {P : Effect Op → Prop} {α : Type} {r₀ r : Work R α} {es : List (Exchange R)}
    (h : Comes r₀ es r) (hr : r₀.Asks P) : r.Asks P := by
  induction h with
  | still => exact hr
  | asks _ a ih => exact ih.2 a
  | waits _ ih => exact ih

theorem respond_steady (response : Option Envelope) :
    Work.Asks Effect.Steady (Bridge.respond response : Work R Unit) := by
  cases response with
  | none => exact trivial
  | some e => exact .bind (fun _ => .done _) (.send trivial trivial)

/-- The work on an envelope leaves the stream open if processing it does. -/
theorem dispatch_steady {p : Processor R σ} {e : Envelope} (h : Work.Asks Effect.Steady (p.process e)) :
    Work.Asks Effect.Steady (Bridge.dispatch p e) := by
  refine .bind respond_steady (.bind (fun result => ?_) h.attempt)
  cases result with
  | ok response => exact .done _
  | error x => exact ⟨trivial, fun _ => trivial⟩

/-! ## The loops -/

/-- The loops of a stream that goes on: they are where they started, no other task has the stream shut
down, and what comes in is harmless. -/
structure Going (harmless : Envelope → Prop) (b : Bridge R σ) : Prop where
  shutdown : b.shutdown = false
  receiver : b.receiver = true
  result : b.result = none
  ended : b.ended = false
  readResult : b.readResult = none
  inbox : ∀ item ∈ b.inbox, ∃ e, item = .ok e ∧ harmless e
  inbound : ∀ e ∈ b.inbound, harmless e
  writer : b.activity? 0 = some (.writer .receiving)
  reader : b.activity? 1 = some .reader
  dispatcher : b.activity? 2 = some .dispatcher
  others : ∀ t a, 3 ≤ t → b.activity? t = some a → ∃ r, a.work? = some r ∧ Work.Asks Effect.Steady r
  numbered : b.Numbered
  started : 3 ≤ b.nextTask

namespace Bridge

theorem step_writer (ha : b.activity? t = some (.writer .receiving)) (hs : b.shutdown = false) :
    b.step s t = match b.queue with
      | [] => none
      | e :: rest => some (writeFirst s b t e rest) := by
  unfold step
  rw [ha]
  show b.stepWriter s t .receiving = _
  unfold stepWriter
  dsimp only
  cases b.queue with
  | nil => exact if_neg (by rw [hs]; exact Bool.false_ne_true)
  | cons e rest => rfl

theorem step_reader (ha : b.activity? t = some .reader) (hs : b.shutdown = false) (he : b.ended = false)
    {harmless : Envelope → Prop} (hi : ∀ item ∈ b.inbox, ∃ e, item = .ok e ∧ harmless e) :
    b.step s t = none ∨ ∃ e rest, b.inbox = .ok e :: rest ∧
      b.step s t = some ([.received e], { b with inbox := rest, inbound := b.inbound ++ [e] }) := by
  unfold step
  rw [ha]
  show b.stepReader t = none ∨ ∃ e rest, _ ∧ b.stepReader t = _
  unfold stepReader
  rw [if_neg (by rw [hs]; exact Bool.false_ne_true)]
  cases hinbox : b.inbox with
  | nil => exact .inl (if_neg (by rw [he]; exact Bool.false_ne_true))
  | cons item rest =>
    obtain ⟨e, rfl, -⟩ := hi item (by rw [hinbox]; exact List.mem_cons_self ..)
    exact .inr ⟨e, rest, rfl, rfl⟩

theorem step_dispatcher (ha : b.activity? t = some .dispatcher) (hr : b.readResult = none) :
    b.step s t = match b.inbound with
      | [] => none
      | e :: rest =>
        some ([.dispatched e], { b with inbound := rest }.spawn (.routine (dispatch s.processor e))) := by
  unfold step
  rw [ha]
  show b.stepDispatcher s.processor t = _
  unfold stepDispatcher inboundClosed
  cases b.inbound with
  | nil => exact if_neg (by rw [hr]; exact Bool.false_ne_true)
  | cons e rest => rfl

/-- An effect that leaves the stream open changes nothing that the loops go by but the queue. -/
theorem perform_steady {e : Effect Op} (h : e.Steady) (p : Processor R σ) (b : Bridge R σ) :
    ∃ state queue, (perform p e b).2.2 = { b with state, queue } := by
  cases e with
  | own op => exact ⟨_, b.queue, rfl⟩
  | now | isClosed => exact ⟨b.state, b.queue, rfl⟩
  | push e =>
    show ∃ state queue, (b.push e).2.2 = _
    unfold push
    split
    · exact ⟨b.state, _, rfl⟩
    · exact ⟨b.state, b.queue, rfl⟩
  | close | watch ms => exact h.elim

/-- A step of a task that leaves the stream open. -/
theorem Steps.steady (h : b.Steps s t more b') (ha : b.activity? t = some a) (hw : a.work? = some r)
    (hr : r.Asks Effect.Steady) :
    handed more = [] ∧ ∃ state queue tasks, b' = { b with state, queue, tasks } := by
  have hsame : ∀ {a₀ : Activity R}, b.activity? t = some a₀ → a₀ = a := fun h₀ =>
    Option.some.inj (h₀.symm.trans ha)
  cases h with
  | @asks x k routine =>
    obtain rfl := hsame routine
    cases hw
    obtain ⟨state, queue, hb⟩ := perform_steady hr.1 s.processor b
    refine ⟨(perform_alters ..).handed, ?_⟩
    rw [hb]
    exact ⟨_, _, _, rfl⟩
  | ends | panics | suspends | resumes => exact ⟨rfl, _, _, _, rfl⟩
  | reads held | readerEnds held | dispatches held | dispatcherEnds held | writes held | fails held
    | turns held | leaves held | joins held | closes held | polls held =>
    obtain rfl := hsame held
    cases hw

end Bridge

namespace Going

variable {harmless : Envelope → Prop}

/-- A new task that leaves the stream open. -/
theorem spawn (h : Going harmless b) (hr : r.Asks Effect.Steady) : Going harmless (b.spawn (.routine r)) := by
  have hold {t : Nat} (ht : t < 3) : (b.spawn (.routine r)).activity? t = b.activity? t :=
    Bridge.activity?_spawn_of_lt (ht.trans_le h.started) _
  refine { h with
    writer := (hold (by decide)).trans h.writer
    reader := (hold (by decide)).trans h.reader
    dispatcher := (hold (by decide)).trans h.dispatcher
    others := fun t a ht ha => ?_
    numbered := h.numbered.spawn _
    started := h.started.trans (Nat.le_succ _) }
  rcases lt_trichotomy t b.nextTask with hlt | rfl | hgt
  · rw [Bridge.activity?_spawn_of_lt hlt] at ha
    exact h.others t a ht ha
  · rw [Bridge.activity?_spawn_self h.numbered] at ha
    cases ha
    exact ⟨r, rfl, hr⟩
  · have hlt := (h.numbered.spawn (.routine r)).lt ha
    exact absurd hlt (Nat.not_lt.2 hgt)

/-- A step of any task but the loops. -/
theorem work (h : Going harmless b) (ht : 3 ≤ t) (hs : b.Steps s t more b') :
    handed more = [] ∧ Going harmless b' := by
  obtain ⟨a, ha⟩ := hs.active
  obtain ⟨r, hw, hr⟩ := h.others t a ht ha
  obtain ⟨r', hcomes, hafter⟩ := hs.work h.numbered ha hw (.still r)
  obtain ⟨hhanded, state, queue, tasks, hb⟩ := hs.steady ha hw hr
  have hold (n : Nat) (hne : n ≠ t) (hlt : n < 3) : b'.activity? n = b.activity? n :=
    hs.others hne (hlt.trans_le h.started)
  refine ⟨hhanded, ?_⟩
  have hothers : ∀ t' a', 3 ≤ t' → b'.activity? t' = some a' →
      ∃ r, a'.work? = some r ∧ Work.Asks Effect.Steady r := by
    intro t' a' ht' ha'
    by_cases hne : t' = t
    · subst hne
      exact ⟨r', hafter a' ha', hcomes.asks_kept hr⟩
    · have hlt := (hs.numbered h.numbered).lt ha'
      rw [hb] at hlt
      rw [hs.others hne hlt] at ha'
      exact h.others t' a' ht' ha'
  have hwriter := (hold 0 (by omega) (by decide)).trans h.writer
  have hreader := (hold 1 (by omega) (by decide)).trans h.reader
  have hdispatcher := (hold 2 (by omega) (by decide)).trans h.dispatcher
  have hnumbered := hs.numbered h.numbered
  subst hb
  exact { h with
    writer := hwriter
    reader := hreader
    dispatcher := hdispatcher
    others := hothers
    numbered := hnumbered }

/-- A step of the reader. -/
theorem read (h : Going harmless b) (hs : b.step s 1 = some (more, b')) : handed more = [] ∧ Going harmless b' := by
  rcases Bridge.step_reader (s := s) h.reader h.shutdown h.ended h.inbox with hnone | ⟨e, rest, hinbox, hread⟩
  · rw [hnone] at hs
    cases hs
  · rw [hread] at hs
    cases hs
    have hitem {item : Except String Envelope} (hitem : item ∈ Except.ok e :: rest) :
        ∃ e, item = .ok e ∧ harmless e := h.inbox item (by rw [hinbox]; exact hitem)
    refine ⟨rfl, { h with inbox := fun item hmem => hitem (List.mem_cons_of_mem _ hmem), inbound := ?_ }⟩
    intro e' he'
    rcases List.mem_append.1 he' with he' | he'
    · exact h.inbound e' he'
    · obtain ⟨e₀, heq, he₀⟩ := hitem (List.mem_cons_self ..)
      cases heq
      rw [List.mem_singleton.1 he']
      exact he₀

/-- A step of the dispatcher, where processing what is harmless leaves the stream open. -/
theorem dispatch (h : Going harmless b)
    (processing : ∀ e, harmless e → Work.Asks Effect.Steady (s.processor.process e))
    (hs : b.step s 2 = some (more, b')) : handed more = [] ∧ Going harmless b' := by
  rw [Bridge.step_dispatcher h.dispatcher h.readResult] at hs
  cases hinbound : b.inbound with
  | nil =>
    rw [hinbound] at hs
    cases hs
  | cons e rest =>
    rw [hinbound] at hs
    cases hs
    have hmem {e' : Envelope} (he' : e' ∈ e :: rest) : harmless e' := h.inbound e' (by rw [hinbound]; exact he')
    have hrest : Going harmless { b with inbound := rest } :=
      { h with inbound := fun e' he' => hmem (List.mem_cons_of_mem _ he') }
    exact ⟨rfl, hrest.spawn (dispatch_steady (processing e (hmem (List.mem_cons_self ..))))⟩

/-- A step of the writer: the first envelope of the queue is written, or it is refused and ends the
writing. -/
theorem write (h : Going harmless b) (hs : b.step s 0 = some (more, b')) :
    ∃ e rest, b.queue = e :: rest ∧
      (s.writeError b.written e = none ∧ more = [.written e] ∧
          b' = { b with queue := rest, written := b.written + 1 } ∨
        s.writeError b.written e ≠ none ∧ more = [.failed e] ∧ b'.takes = false ∧ b'.shutdown = true) := by
  rw [Bridge.step_writer h.writer h.shutdown] at hs
  cases hqueue : b.queue with
  | nil =>
    rw [hqueue] at hs
    cases hs
  | cons e rest =>
    rw [hqueue] at hs
    refine ⟨e, rest, rfl, ?_⟩
    have hwrite : Bridge.writeFirst s b 0 e rest = (more, b') := Option.some.inj hs
    unfold Bridge.writeFirst at hwrite
    cases herror : s.writeError b.written e with
    | none =>
      rw [herror] at hwrite
      cases hwrite
      exact .inl ⟨rfl, rfl, rfl⟩
    | some reason =>
      rw [herror] at hwrite
      cases hwrite
      refine .inr ⟨Option.some_ne_none _, rfl, ?_, rfl⟩
      exact Bridge.takes_of_activity
        (Bridge.activity?_become_self (b := { b with queue := rest, shutdown := true }) h.writer _)

end Going

end FunctionWorker
