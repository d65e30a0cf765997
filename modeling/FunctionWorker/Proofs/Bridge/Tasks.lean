/-
The tasks of a stream. Every envelope that comes in is passed on at most once, in the order in which the
host sent it, to a task of its own, which handles it. A task that panics is as if it had never gone on.
-/
import FunctionWorker.Proofs.Bridge.Queue
import FunctionWorker.Proofs.Bridge.Work

namespace FunctionWorker

variable {Op : Type} {R : Op → Type} {σ : Type} {s : Stream R σ} {p : Processor R σ} {b b' : Bridge R σ}
  {seen more : List Occurrence} {t t' : Nat} {a : Activity R} {r r₀ : Work R Unit} {es : List (Exchange R)}

namespace Bridge

/-! ## The work of a task -/

/-- Work that is left where nothing is asked for. -/
theorem Comes.quiet (hx : b.exchange? p t = none) (h : Comes r₀ es r) :
    Comes r₀ (es ++ (b.exchange? p t).toList) r := by
  rwa [hx, Option.toList_none, List.append_nil]

/-- A step of a task brings its work on by what it asks for. -/
theorem Steps.work (h : Steps s b t more b') (hn : b.Numbered) (ha : b.activity? t = some a)
    (hw : a.work? = some r) (hr : Comes r₀ es r) :
    ∃ r', Comes r₀ (es ++ (b.exchange? s.processor t).toList) r' ∧
      ∀ a', b'.activity? t = some a' → a'.work? = some r' := by
  have hsame : ∀ {a₀ : Activity R}, b.activity? t = some a₀ → a₀ = a := fun h₀ =>
    Option.some.inj (h₀.symm.trans ha)
  have hover {c : Bridge R σ} {r' : Work R Unit} :
      ∀ a', (c.finish t).activity? t = some a' → a'.work? = some r' := by
    intro a' ha'
    rw [activity?_finish_self] at ha'
    cases ha'
  cases h with
  | @asks x k routine =>
    obtain rfl := hsame routine
    cases hw
    refine ⟨k (perform s.processor x b).2.1, ?_, fun a' ha' => ?_⟩
    · rw [exchange?_call routine]
      exact hr.asks _
    · have hbefore := ((perform_alters s.processor x b).activity? (hn.lt ha)).trans ha
      rw [activity?_become_self hbefore] at ha'
      cases ha'
      rfl
  | ends routine =>
    obtain rfl := hsame routine
    cases hw
    exact ⟨_, Comes.quiet (exchange?_other fun x k h => by rw [ha] at h; cases h) hr, hover⟩
  | panics routine =>
    obtain rfl := hsame routine
    cases hw
    exact ⟨_, Comes.quiet (exchange?_other fun x k h => by rw [ha] at h; cases h) hr, hover⟩
  | suspends routine waiting =>
    obtain rfl := hsame routine
    cases hw
    refine ⟨_, Comes.quiet (exchange?_other fun x k h => by rw [ha] at h; cases h) hr.waits, fun a' ha' => ?_⟩
    rw [activity?_become_self ha] at ha'
    cases ha'
    exact waiting
  | resumes held work hne =>
    obtain rfl := hsame held
    rw [hw] at work
    cases work
    refine ⟨_, Comes.quiet (exchange?_other fun x k h => ?_) hr, fun a' ha' => ?_⟩
    · rw [ha] at h
      exact hne _ (Option.some.inj h)
    · rw [activity?_become_self ha] at ha'
      cases ha'
      rfl
  | reads reader | readerEnds reader | dispatches reader | dispatcherEnds reader | writes reader | fails reader
    | turns reader | leaves reader | joins reader | closes reader | polls reader =>
    obtain rfl := hsame reader
    cases hw

theorem job?_dispatcher (h : b.activity? t = some .dispatcher) : b.job? t = b.inbound.head? := by
  unfold job?
  rw [h]

theorem job?_other (h : b.activity? t ≠ some .dispatcher) : b.job? t = none := by
  unfold job?
  split
  · rename_i ha
    exact absurd ha h
  · rfl

/-- What a step means for the envelopes that have come in: a task is started for the first one that is
waiting, or no task is, and one more may come in. -/
theorem Steps.arrivals (h : Steps s b t more b') (hn : b.Numbered) :
    (∃ e, b.job? t = some e ∧ b.inbound = e :: b'.inbound ∧ received more = [] ∧
        b'.activity? b.nextTask = some (.routine (dispatch s.processor e)) ∧ b.nextTask < b'.nextTask) ∨
      (b.job? t = none ∧ b'.inbound = b.inbound ++ received more) := by
  have hsame (hj : b.activity? t ≠ some .dispatcher) (hi : b'.inbound = b.inbound) (hr : received more = []) :
      b.job? t = none ∧ b'.inbound = b.inbound ++ received more := by
    rw [hi, hr, List.append_nil]
    exact ⟨job?_other hj, rfl⟩
  cases h with
  | dispatches dispatcher inbound =>
    refine .inl ⟨_, ?_, inbound, rfl, activity?_spawn_self (b := { b with inbound := _ }) hn _,
      Nat.lt_succ_self _⟩
    rw [job?_dispatcher dispatcher, inbound, List.head?_cons]
  | reads reader =>
    refine .inr ⟨job?_other ?_, rfl⟩
    rw [reader]
    exact nofun
  | dispatcherEnds dispatcher inbound =>
    refine .inr ⟨?_, (List.append_nil _).symm⟩
    rw [job?_dispatcher dispatcher, inbound, List.head?_nil]
  | asks routine => 
    exact .inr (hsame (by rw [routine]; exact nofun) (perform_alters ..).inbound (perform_alters ..).received)
  | suspends held waiting => exact .inr (hsame (by rw [held]; exact nofun) rfl rfl)
  | resumes held waiting =>
    refine .inr (hsame (fun hd => ?_) rfl rfl)
    obtain rfl := Option.some.inj (held.symm.trans hd)
    cases waiting
  | readerEnds held | writes held | fails held | turns held | leaves held | joins held | ends held
    | panics held | closes held | polls held => exact .inr (hsame (by rw [held]; exact nofun) rfl rfl)

end Bridge

/-! ## Tasks for envelopes -/

/-- How envelopes are passed on to tasks: each to a task of its own, whose work is that envelope's. -/
structure Employed (s : Stream R σ) (x : Chronicle R σ) : Prop where
  numbered : x.bridge.Numbered
  heard : ∀ y ∈ x.asked, y.1 < x.bridge.nextTask
  started : ∀ job ∈ x.jobs, job.1 < x.bridge.nextTask
  apart : (x.jobs.map (·.1)).Nodup
  passed : x.jobs.map (·.2) ++ x.bridge.inbound = received x.seen
  works : ∀ job ∈ x.jobs, ∃ r, Comes (Bridge.dispatch s.processor job.2) (askedBy job.1 x.asked) r ∧
    ∀ a, x.bridge.activity? job.1 = some a → a.work? = some r

variable {x : Chronicle R σ}

theorem askedBy_self (t : Nat) (y : Option (Exchange R)) : askedBy t (y.toList.map (t, ·)) = y.toList := by
  cases y <;> simp [askedBy]

theorem askedBy_of_ne (h : t' ≠ t) (y : Option (Exchange R)) : askedBy t' (y.toList.map (t, ·)) = [] := by
  cases y <;> simp [askedBy, Ne.symm h]

theorem askedBy_eq_nil {asked : List (Nat × Exchange R)} (h : ∀ y ∈ asked, y.1 < t) : askedBy t asked = [] := by
  unfold askedBy
  rw [List.map_eq_nil_iff, List.filter_eq_nil_iff]
  intro y hy
  simpa using (h y hy).ne

/-- The work of a task that was started before goes on. -/
theorem Employed.continues (h : Employed s x) (hs : x.bridge.Steps s t more b') {job : Nat × Envelope}
    (hjob : job ∈ x.jobs) :
    ∃ r, Comes (Bridge.dispatch s.processor job.2) (askedBy job.1 (x.advance s t more b').asked) r ∧
      ∀ a, b'.activity? job.1 = some a → a.work? = some r := by
  obtain ⟨r, hr, hwork⟩ := h.works job hjob
  show ∃ r, Comes _ (askedBy job.1 (x.asked ++ _)) r ∧ _
  rw [askedBy_append]
  by_cases ht : job.1 = t
  · subst ht
    obtain ⟨a, ha⟩ := hs.active
    rw [askedBy_self]
    exact hs.work h.numbered ha (hwork a ha) hr
  · refine ⟨r, ?_, fun a ha => hwork a ?_⟩
    · rw [askedBy_of_ne ht, List.append_nil]
      exact hr
    · rw [← hs.others ht (h.started job hjob)]
      exact ha

theorem Employed.advance (h : Employed s x) (hs : x.bridge.Steps s t more b') :
    Employed s (x.advance s t more b') := by
  have hlt := hs.lt h.numbered
  have hle := hs.nextTask
  have hheard : ∀ y ∈ (x.advance s t more b').asked, y.1 < x.bridge.nextTask := by
    intro y hy
    rcases List.mem_append.1 hy with hy | hy
    · exact h.heard y hy
    · obtain ⟨z, -, rfl⟩ := List.mem_map.1 hy
      exact hlt
  have hstarted : ∀ job ∈ x.jobs, job.1 < b'.nextTask := fun job hjob => lt_of_lt_of_le (h.started job hjob) hle
  have hcontinues : ∀ job ∈ x.jobs, _ := fun job hjob => h.continues hs hjob
  rcases hs.arrivals h.numbered with ⟨e, hj, hi, hr, ha, hnext⟩ | ⟨hj, hi⟩
  · -- a task is started: its number is a new one, so nobody has asked for anything under it
    have hjobs : (x.advance s t more b').jobs = x.jobs ++ [(x.bridge.nextTask, e)] := by
      show x.jobs ++ (x.bridge.job? t).toList.map _ = _
      rw [hj]
      rfl
    refine ⟨hs.numbered h.numbered, fun y hy => lt_of_lt_of_le (hheard y hy) hle, ?_, ?_, ?_, ?_⟩
    · rw [hjobs]
      intro job hjob
      rcases List.mem_append.1 hjob with hjob | hjob
      · exact hstarted job hjob
      · rw [List.mem_singleton.1 hjob]
        exact hnext
    · rw [hjobs, List.map_append, List.nodup_append]
      refine ⟨h.apart, List.nodup_singleton _, ?_⟩
      intro i hi j hj
      obtain ⟨job, hjob, rfl⟩ := List.mem_map.1 hi
      rw [List.mem_singleton.1 hj]
      exact (h.started job hjob).ne
    · rw [hjobs, List.map_append, List.append_assoc]
      show x.jobs.map (·.2) ++ ([e] ++ b'.inbound) = received (x.seen ++ more)
      rw [received_append, hr, List.append_nil, ← h.passed, hi]
      rfl
    · rw [hjobs]
      intro job hjob
      rcases List.mem_append.1 hjob with hjob | hjob
      · exact hcontinues job hjob
      · rw [List.mem_singleton.1 hjob, askedBy_eq_nil hheard]
        refine ⟨_, .still _, fun a ha' => ?_⟩
        obtain rfl := Option.some.inj (ha.symm.trans ha')
        rfl
  · have hjobs : (x.advance s t more b').jobs = x.jobs := by
      show x.jobs ++ (x.bridge.job? t).toList.map _ = _
      rw [hj]
      exact List.append_nil _
    refine ⟨hs.numbered h.numbered, fun y hy => lt_of_lt_of_le (hheard y hy) hle, hjobs ▸ hstarted,
      hjobs ▸ h.apart, ?_, hjobs ▸ hcontinues⟩
    rw [hjobs]
    show x.jobs.map (·.2) ++ b'.inbound = received (x.seen ++ more)
    rw [hi, received_append, ← h.passed, List.append_assoc]

theorem Employed.start (h : Employed s x) (r : Work R Unit) :
    Employed s { x with bridge := x.bridge.spawn (.routine r) } where
  numbered := h.numbered.spawn _
  heard y hy := Nat.lt_succ_of_lt (h.heard y hy)
  started job hjob := Nat.lt_succ_of_lt (h.started job hjob)
  apart := h.apart
  passed := h.passed
  works job hjob := by
    obtain ⟨r', hr, hwork⟩ := h.works job hjob
    refine ⟨r', hr, fun a ha => hwork a ?_⟩
    rw [← Bridge.activity?_spawn_of_lt (h.started job hjob)]
    exact ha

theorem Employed.act (h : Employed s x) (m : Move R) : Employed s (x.act s m) := by
  cases m with
  | step t => exact Chronicle.act_step (P := Employed s) h fun _ _ hs => h.advance hs
  | deliver items =>
    obtain ⟨inbox, sent, hact⟩ := Chronicle.act_deliver (s := s) x items
    rw [hact]
    exact ⟨h.numbered, h.heard, h.started, h.apart, h.passed, h.works⟩
  | start r => exact h.start r
  | _ => exact ⟨h.numbered, h.heard, h.started, h.apart, h.passed, h.works⟩

/-! ## What the host sends -/

/-- A step that takes an envelope in takes the next one that the host has sent. -/
theorem Bridge.Steps.reading (h : b.Steps s t more b') :
    (b.shutdown = false ∧ (received more).map .ok ++ b'.inbox = b.inbox) ∨
      (b'.shutdown = true ∧ received more = []) := by
  have hsame (hi : b'.inbox = b.inbox) (hr : received more = []) :
      (b.shutdown = false ∧ (received more).map .ok ++ b'.inbox = b.inbox) ∨
        (b'.shutdown = true ∧ received more = []) := by
    cases hb : b.shutdown with
    | true => exact .inr ⟨h.shutdown hb, hr⟩
    | false =>
      rw [hr, hi]
      exact .inl ⟨rfl, rfl⟩
  cases h with
  | reads _ inbox going => exact .inl ⟨going, inbox.symm⟩
  | readerEnds => exact .inr ⟨rfl, rfl⟩
  | asks => exact hsame (perform_alters ..).inbox (perform_alters ..).received
  | _ => exact hsame rfl rfl

/-- What has come in is what the host sent first. Nothing is left out as long as the stream goes on. -/
structure Heard (x : Chronicle R σ) : Prop where
  whole : x.bridge.shutdown = false → (received x.seen).map .ok ++ x.bridge.inbox = x.sent
  inOrder : (received x.seen).map .ok <+: x.sent

theorem Heard.advance (h : Heard x) (hs : x.bridge.Steps s t more b') : Heard (x.advance s t more b') := by
  have hseen : received (x.advance s t more b').seen = received x.seen ++ received more := received_append ..
  rcases hs.reading with ⟨hb, hi⟩ | ⟨hb, hr⟩
  · have hwhole : (received (x.advance s t more b').seen).map .ok ++ b'.inbox = x.sent := by
      rw [hseen, List.map_append, List.append_assoc, hi]
      exact h.whole hb
    exact ⟨fun _ => hwhole, ⟨_, hwhole⟩⟩
  · refine ⟨fun hb' => ?_, ?_⟩
    · rw [show b'.shutdown = false from hb'] at hb
      cases hb
    · rw [hseen, hr, List.append_nil]
      exact h.inOrder

theorem Heard.act (h : Heard x) (m : Move R) : Heard (x.act s m) := by
  cases m with
  | step t => exact Chronicle.act_step (P := Heard) h fun _ _ hs => h.advance hs
  | deliver items =>
    refine ⟨?_, h.inOrder.trans (List.prefix_append _ _)⟩
    show (x.bridge.deliver items).shutdown = false → _ ++ (x.bridge.deliver items).inbox = x.sent ++ _
    unfold Bridge.deliver
    split
    · rw [List.append_nil]
      exact h.whole
    · intro hb
      rw [← h.whole hb, List.append_assoc]
      rfl
  | shutDown => exact ⟨nofun, h.inOrder⟩
  | _ => exact ⟨h.whole, h.inOrder⟩

end FunctionWorker
