/-
Where a stream ends. Behind its complete frames a stream may hold the beginning of another one, and
the decoder is then told that the stream is over. What it still knows of a frame that has begun is the
octets it has not taken and a header it remembers; how many octets of the frame there have been follows
from the two together, and no call changes that number. Only the octets count for its answer.
-/
import FunctionWorker.Proofs.Frame.Chunks

namespace FunctionWorker.Frame

/-! ## Frames and their beginnings -/

/-- A complete frame: a header, and as many octets behind it as the header tells. -/
def IsFrame (b : Bytes) : Prop := headerSize ≤ b.length ∧ b.length = headerSize + headerField b 4 4

instance (b : Bytes) : Decidable (IsFrame b) := inferInstanceAs (Decidable (_ ∧ _))

/-- A number of complete frames, one behind the other. -/
inductive Framed : Bytes → Prop
  | nil : Framed []
  | cons {frame b : Bytes} (isFrame : IsFrame frame) (behind : Framed b) : Framed (frame ++ b)

/-- A stream that ends within a frame: behind complete frames there is the beginning `part` of one
more, and the rest of that one is missing. -/
structure EndsWithin (b part : Bytes) : Prop where
  begun : part ≠ []
  lacks : ∃ rest, rest ≠ [] ∧ IsFrame (part ++ rest)
  behind : ∃ whole, Framed whole ∧ b = whole ++ part

/-- How many octets a stream holds of the frame within which it ends. -/
def inFrame (b : Bytes) : Nat :=
  if b.length < headerSize then b.length
  else if b.length < headerSize + headerField b 4 4 then b.length
  else inFrame (b.drop (headerSize + headerField b 4 4))
termination_by b.length
decreasing_by
  simp only [List.length_drop, headerSize] at *
  omega

/-- The same for a stream that goes on with a payload of `n` octets. -/
def inPayload (n : Nat) (b : Bytes) : Nat :=
  if b.length < n then headerSize + b.length else inFrame (b.drop n)

theorem inFrame_of_short {b : Bytes} (h : b.length < headerSize) : inFrame b = b.length := by
  unfold inFrame
  rw [if_pos h]

theorem inFrame_of_header {b : Bytes} (h : headerSize ≤ b.length) :
    inFrame b = inPayload (headerField b 4 4) (b.drop headerSize) := by
  unfold inFrame inPayload
  rw [if_neg (Nat.not_lt.2 h), List.length_drop, List.drop_drop]
  by_cases hn : b.length < headerSize + headerField b 4 4
  · rw [if_pos hn, if_pos (by omega)]
    omega
  · rw [if_neg hn, if_neg (by omega)]

theorem inPayload_of_whole {n : Nat} {b : Bytes} (h : n ≤ b.length) : inPayload n b = inFrame (b.drop n) := by
  unfold inPayload
  rw [if_neg (Nat.not_lt.2 h)]

theorem IsFrame.inFrame_append {frame : Bytes} (h : IsFrame frame) (b : Bytes) :
    inFrame (frame ++ b) = inFrame b := by
  obtain ⟨hsize, hlength⟩ := h
  have hfield : headerField (frame ++ b) 4 4 = headerField frame 4 4 := headerField_append hsize (by decide) b
  rw [inFrame_of_header (by rw [List.length_append]; omega), hfield,
    inPayload_of_whole (by rw [List.length_drop, List.length_append]; omega), List.drop_drop, ← hlength,
    List.drop_left]

theorem Framed.inFrame_append {whole : Bytes} (h : Framed whole) (b : Bytes) :
    inFrame (whole ++ b) = inFrame b := by
  induction h with
  | nil => rfl
  | cons isFrame _ ih => rw [List.append_assoc, isFrame.inFrame_append, ih]

theorem Framed.inFrame {b : Bytes} (h : Framed b) : inFrame b = 0 := by
  have happend := h.inFrame_append []
  rwa [List.append_nil, inFrame_of_short (b := []) (by decide)] at happend

/-- The beginning of a frame is held as such. -/
theorem inFrame_of_part {part rest : Bytes} (hrest : rest ≠ []) (h : IsFrame (part ++ rest)) :
    inFrame part = part.length := by
  obtain ⟨-, hlength⟩ := h
  have hpos := List.length_pos_of_ne_nil hrest
  rw [List.length_append] at hlength
  by_cases hs : part.length < headerSize
  · exact inFrame_of_short hs
  · rw [headerField_append (Nat.le_of_not_lt hs) (by decide)] at hlength
    rw [inFrame_of_header (Nat.le_of_not_lt hs)]
    unfold inPayload
    rw [if_pos (by rw [List.length_drop]; omega), List.length_drop]
    omega

theorem EndsWithin.inFrame {b part : Bytes} (h : EndsWithin b part) : inFrame b = part.length := by
  obtain ⟨rest, hrest, hframe⟩ := h.lacks
  obtain ⟨whole, hwhole, rfl⟩ := h.behind
  rw [hwhole.inFrame_append, inFrame_of_part hrest hframe]

theorem EndsWithin.cons {frame b part : Bytes} (hframe : IsFrame frame) (h : EndsWithin b part) :
    EndsWithin (frame ++ b) part := by
  obtain ⟨whole, hwhole, rfl⟩ := h.behind
  exact ⟨h.begun, h.lacks, frame ++ whole, .cons hframe hwhole, (List.append_assoc ..).symm⟩

/-- Octets that are neither nothing nor a header with its payload begin a frame. -/
theorem endsWithin_of_part {b : Bytes} (hb : b ≠ [])
    (h : headerSize ≤ b.length → b.length < headerSize + headerField b 4 4) : EndsWithin b b := by
  refine ⟨hb, ?_, [], .nil, rfl⟩
  by_cases hs : b.length < headerSize
  -- too little for a header: one may follow that ends anywhere
  · let header := b ++ List.replicate (headerSize - b.length) 0
    have hheader : header.length = headerSize := by
      rw [List.length_append, List.length_replicate]
      omega
    refine ⟨List.replicate (headerSize - b.length) 0 ++ List.replicate (headerField header 4 4) 0, ?_, ?_⟩
    · refine List.ne_nil_of_length_pos ?_
      rw [List.length_append, List.length_replicate]
      omega
    · rw [← List.append_assoc]
      show IsFrame (header ++ _)
      unfold IsFrame
      rw [headerField_append hheader.ge (by decide), List.length_append, List.length_replicate, hheader]
      exact ⟨Nat.le_add_right .., rfl⟩
  · have hle := Nat.le_of_not_lt hs
    refine ⟨List.replicate (headerSize + headerField b 4 4 - b.length) 0, ?_, ?_⟩
    · refine List.ne_nil_of_length_pos ?_
      rw [List.length_replicate]
      exact Nat.sub_pos_of_lt (h hle)
    · unfold IsFrame
      rw [headerField_append hle (by decide), List.length_append, List.length_replicate]
      have := h hle
      omega

theorem framed_or_endsWithin (b : Bytes) : Framed b ∨ ∃ part, EndsWithin b part := by
  induction b using inFrame.induct with
  | case1 b hs =>
    by_cases hb : b = []
    · exact .inl (hb ▸ .nil)
    · exact .inr ⟨b, endsWithin_of_part hb fun hle => absurd hs (Nat.not_lt.2 hle)⟩
  | case2 b hs hn =>
    refine .inr ⟨b, endsWithin_of_part (fun hb => ?_) fun _ => hn⟩
    rw [hb] at hs
    exact hs (Nat.zero_lt_succ _)
  | case3 b hs hn ih =>
    have hframe : IsFrame (b.take (headerSize + headerField b 4 4)) := by
      have hfield : headerField (b.take (headerSize + headerField b 4 4)) 4 4 = headerField b 4 4 := by
        conv_rhs => rw [← List.take_append_drop (headerSize + headerField b 4 4) b]
        rw [headerField_append (by rw [List.length_take]; omega) (by decide)]
      unfold IsFrame
      rw [hfield, List.length_take]
      omega
    rw [← List.take_append_drop (headerSize + headerField b 4 4) b]
    rcases ih with h | ⟨part, h⟩
    · exact .inl (.cons hframe h)
    · exact .inr ⟨part, h.cons hframe⟩

/-- A stream either consists of complete frames or ends within one. -/
theorem framed_iff (b : Bytes) : Framed b ↔ ¬∃ part, EndsWithin b part := by
  constructor
  · rintro h ⟨part, hw⟩
    have hlength := hw.inFrame.symm.trans h.inFrame
    exact hw.begun (List.length_eq_zero_iff.1 hlength)
  · intro h
    exact (framed_or_endsWithin b).resolve_right h

/-! ## What a decoder knows of the frame it is in -/

namespace Decoder

/-- How many octets there have been of the frame within which a stream ends, its header included if
that has been taken. -/
def inFrame (d : Decoder) (b : Bytes) : Nat :=
  match d.pending with
  | none => Frame.inFrame b
  | some h => inPayload h.length.toNat b

/-- There is nothing to take: too little for a header, or for the payload that is to come. -/
def Lacks (d : Decoder) (b : Bytes) : Prop :=
  match d.pending with
  | none => b.length < headerSize
  | some h => b.length < h.length.toNat

/-- What a call makes of the frame a stream ends within: unless it fails for good it changes nothing
about how much of it there has been, and if it yields nothing there is nothing to take. -/
structure Holds (d : Decoder) (received : Bytes) (s : Yield × Decoder × Bytes) : Prop where
  kept : ∀ more, s.2.1.inFrame (s.2.2 ++ more) = d.inFrame (received ++ more)
  lacks : s.1 = .ok none → s.2.1.Lacks s.2.2

theorem takePayload_holds {d : Decoder} {h : Header} {received b : Bytes}
    (hw : ∀ more, d.inFrame (received ++ more) = inPayload h.length.toNat (b ++ more)) :
    Holds d received (d.takePayload h b) := by
  unfold takePayload
  by_cases hn : b.length < h.length.toNat
  · rw [if_pos hn]
    exact ⟨fun more => (hw more).symm, fun _ => hn⟩
  · rw [if_neg hn]
    refine ⟨fun more => ?_, fun hnone => ?_⟩
    · rw [hw more, inPayload_of_whole (by rw [List.length_append]; omega),
        List.drop_append_of_le_length (by omega)]
      rfl
    · generalize decode (b.take h.length.toNat) = r at hnone
      cases r <;> cases hnone

theorem step_holds (d : Decoder) (received : Bytes) :
    (∃ e, (d.step received).1 = .error e ∧ e.isRecoverable = false) ∨ Holds d received (d.step received) := by
  rcases hp : d.pending with _ | h
  · have hin : ∀ b, d.inFrame b = Frame.inFrame b := fun b => by
      unfold inFrame
      rw [hp]
    by_cases hs : received.length < headerSize
    · have hstep : d.step received = (.ok none, d, received) := by
        unfold step
        rw [hp]
        exact if_pos hs
      rw [hstep]
      refine .inr ⟨fun _ => rfl, fun _ => ?_⟩
      show d.Lacks received
      unfold Lacks
      rw [hp]
      exact hs
    · have hb : headerSize ≤ received.length := Nat.le_of_not_lt hs
      rw [step_of_header hp hb]
      rcases hr : refusal? d.limit received with _ | e
      · refine .inr (takePayload_holds fun more => ?_)
        rw [hin, inFrame_of_header (by rw [List.length_append]; omega), headerOf_length,
          headerField_append hb (by decide), List.drop_append_of_le_length hb]
      · exact .inl ⟨e, rfl, refusal_final hr⟩
  · have hstep : d.step received = d.takePayload h received := by
      unfold step
      rw [hp]
    rw [hstep]
    refine .inr (takePayload_holds fun more => ?_)
    unfold inFrame
    rw [hp]

/-- With nothing to take, a decoder that holds no octets has seen nothing of a frame or its header
alone. -/
theorem Lacks.inFrame {d : Decoder} {b : Bytes} (h : d.Lacks b) :
    b = [] ↔ d.inFrame b = 0 ∨ d.inFrame b = headerSize := by
  rcases hp : d.pending with _ | header
  · unfold Lacks at h
    unfold Decoder.inFrame
    rw [hp] at h ⊢
    dsimp only at h ⊢
    rw [inFrame_of_short h, ← List.length_eq_zero_iff]
    omega
  · unfold Lacks at h
    unfold Decoder.inFrame inPayload
    rw [hp] at h ⊢
    dsimp only at h ⊢
    rw [if_pos h, ← List.length_eq_zero_iff]
    unfold headerSize
    omega

/-- A call that yields nothing at the end of a stream is a clean end, or finds octets left over. -/
theorem finish_of_step {d : Decoder} {received : Bytes} (h : (d.step received).1 = .ok none) :
    (d.finish received).1 =
      if (d.step received).2.2 = [] then .ok none else .error (.io "bytes remaining on stream") := by
  unfold finish
  generalize d.step received = s at h ⊢
  obtain ⟨y, d', rest⟩ := s
  cases h
  dsimp only
  split_ifs <;> rfl

end Decoder

/-! ## A whole stream -/

namespace Reader

/-- How many octets there have been of the frame within which the stream ends, with those still to
come. -/
def inFrame (x : Reader) (more : Bytes) : Nat := x.decoder.inFrame (x.received ++ more)

theorem call_inFrame {x : Reader} (h : x.call.ended = false) (more : Bytes) :
    x.call.inFrame more = x.inFrame more := by
  rcases Decoder.step_holds x.decoder x.received with ⟨e, hy, hfinal⟩ | hholds
  · have hended : x.call.ended = true := by
      unfold call yield
      rw [hy]
      show (!e.isRecoverable) = true
      rw [hfinal]
      rfl
    rw [hended] at h
    cases h
  · exact hholds.kept more

theorem drain_inFrame {x : Reader} (h : x.drain.ended = false) (more : Bytes) :
    x.drain.inFrame more = x.inFrame more := by
  induction x using drain.induct with
  | case1 x hx ih =>
    rw [drain, dif_pos hx] at h ⊢
    rw [ih h, call_inFrame ((call_spec hx.1).2.1 hx.2).1]
  | case2 x hx =>
    rw [drain, dif_neg hx] at h ⊢
    exact call_inFrame h more

theorem receive_inFrame {x : Reader} {chunk : Bytes} (h : (x.receive chunk).ended = false) (more : Bytes) :
    x.ended = false ∧ (x.receive chunk).inFrame more = x.inFrame (chunk ++ more) := by
  unfold receive at h ⊢
  by_cases hx : x.ended = true
  · rw [if_pos hx, hx] at h
    cases h
  · rw [if_neg hx] at h ⊢
    refine ⟨Bool.eq_false_iff.2 hx, ?_⟩
    rw [drain_inFrame h]
    unfold inFrame
    rw [List.append_assoc]

theorem receiveAll_inFrame {x : Reader} {chunks : List Bytes} (h : (x.receiveAll chunks).ended = false) :
    x.ended = false ∧ (x.receiveAll chunks).inFrame [] = x.inFrame chunks.flatten := by
  induction chunks generalizing x with
  | nil => exact ⟨h, rfl⟩
  | cons chunk chunks ih =>
    obtain ⟨hended, hrest⟩ := ih (x := x.receive chunk) h
    obtain ⟨hx, hchunk⟩ := receive_inFrame hended chunks.flatten
    exact ⟨hx, by rw [List.flatten_cons, ← hchunk]; exact hrest⟩

/-- Reading has ended only if one of the results is final. -/
def Honest (x : Reader) : Prop := x.ended = true → ∃ r ∈ x.results, isFinal r = true

theorem call_honest (x : Reader) : x.call.Honest := by
  intro h
  obtain ⟨r, hr, hfinal⟩ := (Option.any_eq_true ..).1 h
  exact ⟨r, List.mem_append_right _ (Option.mem_toList.2 hr), hfinal⟩

theorem drain_honest (x : Reader) : x.drain.Honest := by
  induction x using drain.induct with
  | case1 x hx ih => rwa [drain, dif_pos hx]
  | case2 x hx =>
    rw [drain, dif_neg hx]
    exact x.call_honest

theorem receiveAll_honest {x : Reader} (h : x.Honest) (chunks : List Bytes) :
    (x.receiveAll chunks).Honest := by
  induction chunks generalizing x with
  | nil => exact h
  | cons chunk chunks ih =>
    refine ih (x := x.receive chunk) ?_
    unfold receive
    by_cases hx : x.ended = true
    · rwa [if_pos hx]
    · rw [if_neg hx]
      exact drain_honest _

theorem receiveAll_settled {x : Reader} (h : x.Settled) (chunks : List Bytes) :
    (x.receiveAll chunks).Settled := by
  induction chunks generalizing x with
  | nil => exact h
  | cons chunk chunks ih => exact ih (receive_spec x chunk h).2

/-- A reader that has not failed and to which nothing can be had takes the end of the stream for a
clean one if it has seen no octet of a frame, or the octets of its header. -/
theorem finish_of_settled {x : Reader} (hx : x.ended = false) (hs : x.Settled) :
    (x.decoder.finish x.received).1 =
      if x.inFrame [] = 0 ∨ x.inFrame [] = headerSize then .ok none
      else .error (.io "bytes remaining on stream") := by
  have hworth : x.decoder.worth x.received = [] := hs.resolve_left (by rw [hx]; exact Bool.false_ne_true)
  have hnone : (x.decoder.step x.received).1 = .ok none := by
    have hc := Decoder.step_called x.decoder x.received
    generalize x.decoder.step x.received = s at hc ⊢
    cases hc with
    | waits => rfl
    | takes _ _ _ _ _ _ kept _ =>
      have := kept []
      rw [List.append_nil, hworth] at this
      cases this
    | refuses _ _ _ kept =>
      have := kept []
      rw [List.append_nil, hworth] at this
      cases this
  rcases Decoder.step_holds x.decoder x.received with ⟨e, hy, -⟩ | hholds
  · rw [hnone] at hy
    cases hy
  · have hin := hholds.kept []
    rw [List.append_nil] at hin
    rw [Decoder.finish_of_step hnone]
    simp only [(hholds.lacks hnone).inFrame, hin]
    rfl

theorem fresh_settled (limit : Nat) : (fresh limit).Settled := .inr (frames_of_short (Nat.zero_lt_succ _))

theorem fresh_results (limit : Nat) (chunks : List Bytes) :
    ((fresh limit).receiveAll chunks).results = frames limit chunks.flatten :=
  receiveAll_spec (fresh_settled limit) chunks

/-- Reading goes on to the end of a stream in which no error is final, and what the decoder then makes
of the end depends on how much there is of a last frame. -/
theorem finish_of_sound {limit : Nat} {chunks : List Bytes}
    (sound : ∀ e, .error e ∈ ((fresh limit).receiveAll chunks).results → e.isRecoverable = true) :
    (((fresh limit).receiveAll chunks).decoder.finish ((fresh limit).receiveAll chunks).received).1 =
      if Frame.inFrame chunks.flatten = 0 ∨ Frame.inFrame chunks.flatten = headerSize then .ok none
      else .error (.io "bytes remaining on stream") := by
  have hended : ((fresh limit).receiveAll chunks).ended = false := by
    rw [← Bool.not_eq_true]
    intro h
    obtain ⟨r, hr, hfinal⟩ := receiveAll_honest (x := fresh limit) nofun chunks h
    cases r with
    | ok e => cases hfinal
    | error e =>
      have hrecoverable := sound e hr
      simp only [isFinal, hrecoverable, Bool.not_true, Bool.false_eq_true] at hfinal
  have hin : ((fresh limit).receiveAll chunks).inFrame [] = Frame.inFrame chunks.flatten :=
    (receiveAll_inFrame hended).2
  rw [finish_of_settled hended (receiveAll_settled (fresh_settled limit) chunks), hin]

end Reader

/-- A decoder that has taken all the frames of a stream without failing for good, in whatever chunks
the stream came, is told that it is over. If the stream consists of complete frames the end is clean.
If it ends within a frame that is an error wherever it is cut, except right behind a header: that has
been taken, no octet is left, and the end is taken for a clean one. A stream is always one or the
other. -/
theorem end_of_stream (limit : Nat) (chunks : List Bytes)
    (sound : ∀ e, .error e ∈ ((Reader.fresh limit).receiveAll chunks).results → e.isRecoverable = true) :
    let x := (Reader.fresh limit).receiveAll chunks
    (Framed chunks.flatten → (x.decoder.finish x.received).1 = .ok none) ∧
    (∀ part, EndsWithin chunks.flatten part →
      (x.decoder.finish x.received).1 =
        if part.length = headerSize then .ok none else .error (.io "bytes remaining on stream")) ∧
    (Framed chunks.flatten ↔ ¬∃ part, EndsWithin chunks.flatten part) := by
  intro x
  have hfinish := Reader.finish_of_sound sound
  refine ⟨fun h => ?_, fun part h => ?_, framed_iff _⟩
  · rw [hfinish, if_pos (.inl h.inFrame)]
  · have hpos := List.length_pos_of_ne_nil h.begun
    rw [hfinish, h.inFrame]
    refine if_congr ?_ rfl rfl
    omega

/-- A stream that ends one octet behind a header, in two chunks. -/
theorem end_of_stream_inPayload :
    (∀ e, .error e ∈ ((Reader.fresh 100).receiveAll [[0, 1], [0, 1, 0, 0, 0, 4, 7]]).results →
      e.isRecoverable = true) ∧
    EndsWithin [0, 1, 0, 1, 0, 0, 0, 4, 7] [0, 1, 0, 1, 0, 0, 0, 4, 7] ∧
    (((Reader.fresh 100).receiveAll [[0, 1], [0, 1, 0, 0, 0, 4, 7]]).decoder.finish
      ((Reader.fresh 100).receiveAll [[0, 1], [0, 1, 0, 0, 0, 4, 7]]).received).1 =
      .error (.io "bytes remaining on stream") := by
  have hresults : ((Reader.fresh 100).receiveAll [[0, 1], [0, 1, 0, 0, 0, 4, 7]]).results = [] := by
    rw [Reader.fresh_results, frames_of_no_refusal (by decide) (by decide)]
    exact if_pos (by decide)
  have hsound : ∀ e, .error e ∈ ((Reader.fresh 100).receiveAll [[0, 1], [0, 1, 0, 0, 0, 4, 7]]).results →
      e.isRecoverable = true := by
    rw [hresults]
    exact nofun
  have hends : EndsWithin [0, 1, 0, 1, 0, 0, 0, 4, 7] [0, 1, 0, 1, 0, 0, 0, 4, 7] :=
    endsWithin_of_part (by decide) (by decide)
  exact ⟨hsound, hends, (end_of_stream 100 _ hsound).2.1 _ hends⟩

/-- A stream that ends right behind a header that tells of a payload: nothing has been decoded and a
frame is not complete, yet the end is a clean one. -/
theorem header_ends_cleanly :
    ((Reader.fresh 100).receiveAll [[0, 1, 0, 1, 0, 0, 0, 4]]).results = [] ∧
    EndsWithin [0, 1, 0, 1, 0, 0, 0, 4] [0, 1, 0, 1, 0, 0, 0, 4] ∧
    ¬Framed [0, 1, 0, 1, 0, 0, 0, 4] ∧
    (((Reader.fresh 100).receiveAll [[0, 1, 0, 1, 0, 0, 0, 4]]).decoder.finish
      ((Reader.fresh 100).receiveAll [[0, 1, 0, 1, 0, 0, 0, 4]]).received).1 = .ok none := by
  have hresults : ((Reader.fresh 100).receiveAll [[0, 1, 0, 1, 0, 0, 0, 4]]).results = [] := by
    rw [Reader.fresh_results, frames_of_no_refusal (by decide) (by decide)]
    exact if_pos (by decide)
  have hends : EndsWithin [0, 1, 0, 1, 0, 0, 0, 4] [0, 1, 0, 1, 0, 0, 0, 4] :=
    endsWithin_of_part (by decide) (by decide)
  refine ⟨hresults, hends, fun h => (framed_iff _).1 h ⟨_, hends⟩, ?_⟩
  rw [Reader.finish_of_sound (by rw [hresults]; exact nofun)]
  exact if_pos (.inr hends.inFrame)

end FunctionWorker.Frame
