/-
Frames in chunks: however the octets of a stream are cut, a decoder that is called until it has
nothing more to give yields what reading the stream in one piece yields. Everything one call can do
is said once, in terms of what the octets received, and all that may follow them, are worth to the
decoder that holds them.
-/
import FunctionWorker.Frame.Codec
import FunctionWorker.Proofs.Frame.Header
import Mathlib.Tactic

namespace FunctionWorker.Frame

/-! ## Reading in one piece -/

/-- What is made of a complete frame, or the error at which reading ends. -/
abbrev Result := Except ProtocolError Envelope

/-- The number in some octets of a header, most significant first. -/
def headerField (b : Bytes) (pos width : Nat) : Nat := Header.ofBigEndian ((b.drop pos).take width)

/-- Why the header of a frame is refused, if it is: its kind, its version or the length it tells, the
first of them that is wrong. -/
def refusal? (limit : Nat) (b : Bytes) : Option ProtocolError :=
  let version := UInt16.ofNat (headerField b 0 2)
  let kind := UInt16.ofNat (headerField b 2 2)
  let length := headerField b 4 4
  if kind ≠ 1 then some (.unknownFrameKind kind)
  else if Protocol.isSupported version = false then some (.unsupportedVersion version)
  else if capacity limit < length then some (.messageTooLarge length (capacity limit))
  else none

/-- The frames of a stream that is there in one piece. Reading ends at a header that is refused, and
where a frame is not complete. -/
def frames (limit : Nat) (b : Bytes) : List Result :=
  if b.length < headerSize then []
  else
    match refusal? limit b with
    | some e => [.error e]
    | none =>
      if b.length < headerSize + headerField b 4 4 then []
      else
        decode ((b.drop headerSize).take (headerField b 4 4)) ::
          frames limit (b.drop (headerSize + headerField b 4 4))
termination_by b.length
decreasing_by
  simp only [List.length_drop, headerSize] at *
  omega

/-- A payload of `n` octets, if it is there, and the frames behind it. -/
def payloadAndFrames (limit n : Nat) (b : Bytes) : List Result :=
  if b.length < n then [] else decode (b.take n) :: frames limit (b.drop n)

theorem frames_of_short {limit : Nat} {b : Bytes} (h : b.length < headerSize) : frames limit b = [] := by
  unfold frames
  rw [if_pos h]

theorem frames_of_refusal {limit : Nat} {b : Bytes} {e : ProtocolError} (hb : headerSize ≤ b.length)
    (h : refusal? limit b = some e) : frames limit b = [.error e] := by
  unfold frames
  rw [if_neg (Nat.not_lt.2 hb), h]

theorem frames_of_no_refusal {limit : Nat} {b : Bytes} (hb : headerSize ≤ b.length)
    (h : refusal? limit b = none) :
    frames limit b = payloadAndFrames limit (headerField b 4 4) (b.drop headerSize) := by
  unfold frames payloadAndFrames
  rw [if_neg (Nat.not_lt.2 hb), h, List.length_drop, List.drop_drop]
  dsimp only
  by_cases hn : b.length < headerSize + headerField b 4 4
  · rw [if_pos hn, if_pos (by omega)]
  · rw [if_neg hn, if_neg (by omega)]

/-- Reading loses its place at a header that is refused. -/
theorem refusal_final {limit : Nat} {b : Bytes} {e : ProtocolError} (h : refusal? limit b = some e) :
    e.isRecoverable = false := by
  unfold refusal? at h
  dsimp only at h
  split_ifs at h <;> cases h <;> rfl

/-- More octets behind a header change nothing about it. -/
theorem headerField_append {b : Bytes} {pos width : Nat} (hb : headerSize ≤ b.length)
    (h : pos + width ≤ headerSize) (more : Bytes) :
    headerField (b ++ more) pos width = headerField b pos width := by
  unfold headerField
  rw [List.drop_append_of_le_length (by omega),
    List.take_append_of_le_length (by rw [List.length_drop]; omega)]

theorem refusal_append {limit : Nat} {b : Bytes} (hb : headerSize ≤ b.length) (more : Bytes) :
    refusal? limit (b ++ more) = refusal? limit b := by
  unfold refusal?
  rw [headerField_append hb (by decide : 0 + 2 ≤ headerSize),
    headerField_append hb (by decide : 2 + 2 ≤ headerSize),
    headerField_append hb (by decide : 4 + 4 ≤ headerSize)]

/-! ## The header as the decoder reads it -/

theorem headerField_take {b : Bytes} {pos width : Nat} (h : pos + width ≤ headerSize) :
    headerField (b.take headerSize) pos width = headerField b pos width := by
  unfold headerField
  rw [List.drop_take, List.take_take, Nat.min_eq_left (by omega)]

/-- The header that the fields of a frame tell. -/
def headerOf (b : Bytes) : Header :=
  ⟨UInt16.ofNat (headerField b 0 2), .envelope, UInt32.ofNat (headerField b 4 4)⟩

/-- The length of a payload is a word of 32 bits. -/
theorem headerOf_length (b : Bytes) : (headerOf b).length.toNat = headerField b 4 4 := by
  have hlt := Header.ofBigEndian_lt ((b.drop 4).take 4)
  have hle : 256 ^ ((b.drop 4).take 4).length ≤ 256 ^ 4 :=
    Nat.pow_le_pow_right (by norm_num) (List.length_take_le ..)
  show (UInt32.ofNat (headerField b 4 4)).toNat = headerField b 4 4
  rw [UInt32.toNat_ofNat', Nat.mod_eq_of_lt]
  exact lt_of_lt_of_le hlt (hle.trans (by norm_num))

theorem headerDecode_take (b : Bytes) :
    Header.decode (b.take headerSize) =
      match Kind.ofWord? (UInt16.ofNat (headerField b 2 2)) with
      | none => .error (.unknownFrameKind (UInt16.ofNat (headerField b 2 2)))
      | some kind => .ok { headerOf b with kind } := by
  unfold headerOf
  rw [← headerField_take (by decide : 0 + 2 ≤ headerSize),
    ← headerField_take (by decide : 2 + 2 ≤ headerSize),
    ← headerField_take (by decide : 4 + 4 ≤ headerSize)]
  rfl

/-- The decoder refuses a header for the reason that reading in one piece has. -/
theorem acceptHeader_take (limit : Nat) (b : Bytes) :
    acceptHeader limit (b.take headerSize) =
      match refusal? limit b with
      | some e => .error e
      | none => .ok (headerOf b) := by
  unfold acceptHeader refusal?
  rw [headerDecode_take]
  dsimp only
  -- both sides look at the kind, then at the version, then at the length
  by_cases hk : UInt16.ofNat (headerField b 2 2) = 1
  · rw [hk, if_neg (not_not.2 rfl)]
    show (if (headerOf b).isSupported = true then _ else _) = _
    by_cases hv : (headerOf b).isSupported = true
    · have hs : ¬ Protocol.isSupported (UInt16.ofNat (headerField b 0 2)) = false := by
        rw [show Protocol.isSupported (UInt16.ofNat (headerField b 0 2)) = true from hv]
        decide
      rw [if_pos hv, if_neg hs]
      unfold Header.checkLength
      rw [headerOf_length]
      by_cases hl : capacity limit < headerField b 4 4
      · rw [if_pos hl, if_pos hl]
      · rw [if_neg hl, if_neg hl]
    · have hs : Protocol.isSupported (UInt16.ofNat (headerField b 0 2)) = false := by
        rw [← Bool.not_eq_true]; exact hv
      rw [if_neg hv, if_pos hs]
      rfl
  · rw [if_pos hk]
    simp only [Kind.ofWord?, if_neg hk]

/-! ## One call -/

/-- What a call counts for: nothing while a frame is incomplete. -/
def result? : Decoder.Yield → Option Result
  | .ok none => none
  | .ok (some e) => some (.ok e)
  | .error e => some (.error e)

/-- Whether reading ends with a result. -/
def isFinal : Result → Bool
  | .ok _ => false
  | .error e => !e.isRecoverable

theorem decode_not_final (payload : Bytes) : isFinal (decode payload) = false := by
  unfold decode
  split <;> rfl

theorem result?_decode (payload : Bytes) : result? ((decode payload).map some) = some (decode payload) := by
  cases decode payload <;> rfl

namespace Decoder

/-- What octets are worth to a decoder: the frames in them, behind the payload it waits for. -/
def worth (d : Decoder) (b : Bytes) : List Result :=
  match d.pending with
  | none => frames d.limit b
  | some h => payloadAndFrames d.limit h.length.toNat b

/-- Calls that yield something make this smaller. -/
def weight (d : Decoder) (received : Bytes) : Nat := received.length + d.pending.isSome.toNat

/-- All that a call can do, and what it does to the worth of the octets received with any that may
follow them. -/
inductive Called (d : Decoder) (received : Bytes) : Yield × Decoder × Bytes → Prop
  | waits (d' : Decoder) (rest : Bytes)
      (kept : ∀ more, d.worth (received ++ more) = d'.worth (rest ++ more))
      (nothing : d'.worth rest = []) : Called d received (.ok none, d', rest)
  | takes (y : Yield) (d' : Decoder) (rest : Bytes) (r : Result) (yields : result? y = some r)
      (goes_on : isFinal r = false)
      (kept : ∀ more, d.worth (received ++ more) = r :: d'.worth (rest ++ more))
      (less : d'.weight rest < d.weight received) : Called d received (y, d', rest)
  | refuses (e : ProtocolError) (final : e.isRecoverable = false)
      (again : ∀ more, d.step (received ++ more) = (.error e, d, received ++ more))
      (kept : ∀ more, d.worth (received ++ more) = [.error e]) :
      Called d received (.error e, d, received)

/-- A payload is taken whole, whether it can be read or not. -/
theorem takePayload_called {d : Decoder} {h : Header} {received b : Bytes}
    (hw : ∀ more, d.worth (received ++ more) = payloadAndFrames d.limit h.length.toNat (b ++ more))
    (hlt : b.length < d.weight received) : Called d received (d.takePayload h b) := by
  unfold takePayload
  by_cases hn : b.length < h.length.toNat
  · rw [if_pos hn]
    refine .waits _ _ hw ?_
    show payloadAndFrames d.limit h.length.toNat b = []
    unfold payloadAndFrames
    rw [if_pos hn]
  · rw [if_neg hn]
    refine .takes _ _ _ _ (result?_decode _) (decode_not_final _) (fun more => ?_) ?_
    · rw [hw more]
      unfold payloadAndFrames
      rw [if_neg (by rw [List.length_append]; omega), List.take_append_of_le_length (by omega),
        List.drop_append_of_le_length (by omega)]
      rfl
    · show (b.drop h.length.toNat).length + 0 < d.weight received
      rw [List.length_drop]
      omega

/-- A call on octets that begin with a whole header. -/
theorem step_of_header {d : Decoder} {b : Bytes} (hp : d.pending = none) (hb : headerSize ≤ b.length) :
    d.step b =
      match refusal? d.limit b with
      | some e => (.error e, d, b)
      | none => d.takePayload (headerOf b) (b.drop headerSize) := by
  unfold step
  rw [hp]
  dsimp only
  rw [if_neg (Nat.not_lt.2 hb), acceptHeader_take]
  cases refusal? d.limit b <;> rfl

theorem step_called (d : Decoder) (received : Bytes) : Called d received (d.step received) := by
  rcases hp : d.pending with _ | h
  -- between frames: there may be too little for a header, and the header may be refused
  · have hworth : ∀ b, d.worth b = frames d.limit b := by
      intro b
      unfold worth
      rw [hp]
    by_cases hs : received.length < headerSize
    · have hstep : d.step received = (.ok none, d, received) := by
        unfold step
        rw [hp]
        exact if_pos hs
      rw [hstep]
      refine .waits d received (fun _ => rfl) ?_
      rw [hworth]
      exact frames_of_short hs
    · have hb : headerSize ≤ received.length := Nat.le_of_not_lt hs
      have hmore : ∀ more, headerSize ≤ (received ++ more).length := fun more => by
        rw [List.length_append]
        omega
      rcases hr : refusal? d.limit received with _ | e
      · rw [step_of_header hp hb, hr]
        refine takePayload_called (fun more => ?_) ?_
        · rw [hworth, frames_of_no_refusal (hmore more) (by rw [refusal_append hb, hr]), headerOf_length,
            headerField_append hb (by decide), List.drop_append_of_le_length hb]
        · show (received.drop headerSize).length < received.length + d.pending.isSome.toNat
          rw [List.length_drop]
          unfold headerSize at *
          omega
      · rw [step_of_header hp hb, hr]
        refine .refuses e (refusal_final hr) (fun more => ?_) (fun more => ?_)
        · rw [step_of_header hp (hmore more), refusal_append hb, hr]
        · rw [hworth, frames_of_refusal (hmore more) (by rw [refusal_append hb, hr])]
  -- behind a header
  · have hstep : d.step received = d.takePayload h received := by
      unfold step
      rw [hp]
    have hworth : ∀ b, d.worth b = payloadAndFrames d.limit h.length.toNat b := by
      intro b
      unfold worth
      rw [hp]
    rw [hstep]
    refine takePayload_called (fun more => hworth _) ?_
    unfold weight
    rw [hp]
    exact Nat.lt_succ_self _

end Decoder

/-! ## Any number of calls -/

/-- A decoder with the octets it has not taken yet and all that its calls have yielded. -/
structure Reader where
  decoder : Decoder
  received : Bytes := []
  results : List Result := []
  /-- Whether reading ended with an error that is final. -/
  ended : Bool := false

namespace Reader

/-- A reader before the first octet. -/
def fresh (limit : Nat) : Reader := { decoder := { limit } }

/-- What the next call yields. -/
def yield (x : Reader) : Decoder.Yield := (x.decoder.step x.received).1

/-- Calls the decoder once. -/
def call (x : Reader) : Reader where
  decoder := (x.decoder.step x.received).2.1
  received := (x.decoder.step x.received).2.2
  results := x.results ++ (result? x.yield).toList
  ended := (result? x.yield).any isFinal

/-- Whether the decoder is called again after the next call. -/
def goesOn (x : Reader) : Bool := (result? x.yield).any (!isFinal ·)

/-- The results so far with those of the octets still to come. -/
def total (x : Reader) (more : Bytes) : List Result :=
  x.results ++ if x.ended then [] else x.decoder.worth (x.received ++ more)

/-- Nothing can be had without further octets. -/
def Settled (x : Reader) : Prop := x.ended = true ∨ x.decoder.worth x.received = []

/-- One call changes nothing about what there is to have in total. After it the decoder is called
again, with less before it, or there is nothing left that can be had. -/
theorem call_spec {x : Reader} (hx : x.ended = false) :
    (∀ more, x.call.total more = x.total more) ∧
    (x.goesOn = true → x.call.ended = false ∧
      x.call.decoder.weight x.call.received < x.decoder.weight x.received) ∧
    (x.goesOn = false → x.call.Settled) := by
  have hc := Decoder.step_called x.decoder x.received
  unfold total Settled goesOn call yield
  rw [hx]
  generalize x.decoder.step x.received = s at hc ⊢
  cases hc with
  | waits _ _ kept nothing =>
    simp only [result?, Option.any_none, Option.toList_none, List.append_nil, kept, nothing]
    refine ⟨fun _ => rfl, fun h => ?_, fun _ => Or.inr trivial⟩
    cases h
  | takes _ _ _ r yields goes_on kept less =>
    simp only [yields, Option.any_some, goes_on, Option.toList_some, kept, List.append_assoc]
    refine ⟨fun _ => rfl, fun _ => ⟨trivial, less⟩, fun h => ?_⟩
    cases h
  | refuses e final again kept =>
    have hf : isFinal (.error e) = true := by simp only [isFinal, final, Bool.not_false]
    simp only [result?, Option.any_some, hf, Option.toList_some, kept, if_true, List.append_nil]
    refine ⟨fun _ => rfl, fun h => ?_, fun _ => Or.inl trivial⟩
    cases h

/-- Calls the decoder until it has nothing to give or reading ends. -/
def drain (x : Reader) : Reader :=
  if _ : x.ended = false ∧ x.goesOn = true then drain x.call else x.call
termination_by x.decoder.weight x.received
decreasing_by
  rename_i h
  exact ((call_spec h.1).2.1 h.2).2

/-- Calls keep what there is to have in total, and they leave nothing that can be had. -/
theorem drain_spec {x : Reader} (hx : x.ended = false) :
    (∀ more, x.drain.total more = x.total more) ∧ x.drain.Settled := by
  induction x using drain.induct with
  | case1 x h ih =>
    obtain ⟨htotal, hagain, -⟩ := call_spec hx
    obtain ⟨ihtotal, ihsettled⟩ := ih (hagain h.2).1
    rw [drain, dif_pos h]
    exact ⟨fun more => (ihtotal more).trans (htotal more), ihsettled⟩
  | case2 x h =>
    obtain ⟨htotal, -, hsettled⟩ := call_spec hx
    rw [drain, dif_neg h]
    exact ⟨htotal, hsettled (by simpa only [hx, true_and, Bool.not_eq_true] using h)⟩

/-- A chunk comes in, and the decoder is called. -/
def receive (x : Reader) (chunk : Bytes) : Reader :=
  if x.ended then x else drain { x with received := x.received ++ chunk }

theorem receive_spec (x : Reader) (chunk : Bytes) (hs : x.Settled) :
    (∀ more, (x.receive chunk).total more = x.total (chunk ++ more)) ∧ (x.receive chunk).Settled := by
  unfold receive
  by_cases hx : x.ended = true
  · rw [if_pos hx]
    refine ⟨fun more => ?_, hs⟩
    unfold total
    rw [if_pos hx, if_pos hx]
  · rw [if_neg hx]
    obtain ⟨htotal, hsettled⟩ := drain_spec (x := { x with received := x.received ++ chunk })
      (by simpa only [Bool.not_eq_true] using hx)
    refine ⟨fun more => ?_, hsettled⟩
    rw [htotal more]
    unfold total
    rw [List.append_assoc]

/-- Chunks come in one at a time. -/
def receiveAll (x : Reader) (chunks : List Bytes) : Reader := chunks.foldl receive x

theorem receiveAll_spec {x : Reader} (hs : x.Settled) (chunks : List Bytes) :
    (x.receiveAll chunks).results = x.total chunks.flatten := by
  induction chunks generalizing x with
  | nil =>
    show x.results = x.total []
    unfold total
    rw [List.append_nil]
    rcases hs with h | h
    · rw [if_pos h, List.append_nil]
    · rw [h, ite_self, List.append_nil]
  | cons chunk chunks ih =>
    obtain ⟨htotal, hsettled⟩ := receive_spec x chunk hs
    rw [List.flatten_cons, ← htotal]
    exact ih hsettled

end Reader

/-! ## Cutting and failing -/

/-- What the calls yield that follow one another, each after more octets have been appended. -/
def Decoder.yields (d : Decoder) (received : Bytes) : List Bytes → List Decoder.Yield
  | [] => []
  | more :: rest =>
    let s := d.step (received ++ more)
    s.1 :: yields s.2.1 s.2.2 rest

/-- A call that has failed for good fails again in the same way, whatever comes in. -/
theorem Decoder.step_final {d d' : Decoder} {received rest : Bytes} {e : ProtocolError}
    (h : d.step received = (.error e, d', rest)) (he : e.isRecoverable = false) (more : Bytes) :
    d'.step (rest ++ more) = (.error e, d', rest ++ more) := by
  have hc := step_called d received
  rw [h] at hc
  cases hc with
  | takes _ _ _ r yields goes_on kept less =>
    cases yields
    simp only [isFinal, he, Bool.not_false, reduceCtorEq] at goes_on
  | refuses _ final again kept => exact again more

theorem Decoder.yields_final {d d' : Decoder} {received rest : Bytes} {e : ProtocolError}
    (h : d.step received = (.error e, d', rest)) (he : e.isRecoverable = false) (appended : List Bytes) :
    d'.yields rest appended = appended.map fun _ => .error e := by
  -- the induction starts anywhere, so all that is kept of the failure is what later calls do
  have hagain := step_final h he
  clear h
  induction appended generalizing rest with
  | nil => rfl
  | cons more appended ih =>
    have hlater : ∀ next, d'.step ((rest ++ more) ++ next) = (.error e, d', (rest ++ more) ++ next) := by
      intro next
      rw [List.append_assoc]
      exact hagain (more ++ next)
    unfold yields
    rw [hagain more, List.map_cons, ← ih hlater]

/-- However a stream is cut into chunks, a decoder that is called after each of them until it has
nothing to give or has failed for good yields the frames of the stream in one piece; and one that has
failed for good yields the same error ever after. -/
theorem chunks_read_as_one (limit : Nat) :
    (∀ chunks : List Bytes,
      ((Reader.fresh limit).receiveAll chunks).results = frames limit chunks.flatten) ∧
    ∀ (d d' : Decoder) (received rest : Bytes) (e : ProtocolError),
      d.step received = (.error e, d', rest) → e.isRecoverable = false →
      ∀ appended : List Bytes, d'.yields rest appended = appended.map fun _ => .error e := by
  refine ⟨fun chunks => ?_, fun d d' received rest e h he appended => Decoder.yields_final h he appended⟩
  have hfresh : (Reader.fresh limit).Settled := Or.inr (frames_of_short (Nat.zero_lt_succ _))
  rw [Reader.receiveAll_spec hfresh]
  rfl

/-- A header of an unknown kind, cut in two and with octets behind it. -/
theorem chunks_read_as_one_unknownKind :
    ((Reader.fresh 100).receiveAll [[0, 1, 0], [2, 0, 0, 0, 1], [7]]).results =
      [.error (.unknownFrameKind 2)] ∧
    ({ limit := 100 } : Decoder).step [0, 1, 0, 2, 0, 0, 0, 1] =
      (.error (.unknownFrameKind 2), { limit := 100 }, [0, 1, 0, 2, 0, 0, 0, 1]) ∧
    ({ limit := 100 } : Decoder).yields [0, 1, 0, 2, 0, 0, 0, 1] [[], [7]] =
      [.error (.unknownFrameKind 2), .error (.unknownFrameKind 2)] := by
  have hstep : ({ limit := 100 } : Decoder).step [0, 1, 0, 2, 0, 0, 0, 1] =
      (.error (.unknownFrameKind 2), { limit := 100 }, [0, 1, 0, 2, 0, 0, 0, 1]) := by rfl
  refine ⟨?_, hstep, (chunks_read_as_one 100).2 _ _ _ _ _ hstep rfl [[], [7]]⟩
  rw [(chunks_read_as_one 100).1]
  exact frames_of_refusal (by decide) (by decide)

end FunctionWorker.Frame
