/-
Payloads: what serialising an envelope yields, and that the envelope is read back from it. Limits
below `2 ^ 30` leave room for what an archive holds in its words of lengths and distances.
-/
import FunctionWorker.Proofs.Archive.Formats
import FunctionWorker.Frame.Codec

namespace FunctionWorker.Frame

variable {limit : Nat} {e : Envelope} {payload : Bytes}

theorem capacity_le (limit : Nat) : capacity limit ≤ limit := Nat.min_le_left ..

/-- An envelope that is not refused is written as its archive, within the capacity. -/
theorem serialise_eq_ok (h : serialise limit e = .ok payload) :
    payload = Archive.Format.envelope.write e ∧ payload.length ≤ capacity limit := by
  unfold serialise at h
  dsimp only at h
  split at h
  · cases h
  · split at h
    · cases h
    · rename_i hc
      cases h
      exact ⟨rfl, Nat.le_of_not_lt hc⟩

/-- What is within the limits is not refused. -/
theorem serialise_of_le (ha : (Archive.Format.envelope.write e).length ≤ maxArchive)
    (hc : (Archive.Format.envelope.write e).length ≤ capacity limit) :
    serialise limit e = .ok (Archive.Format.envelope.write e) := by
  unfold serialise
  dsimp only
  rw [if_neg (Nat.not_lt.2 ha), if_neg (Nat.not_lt.2 hc)]

/-- Every payload that is made under a limit below `2 ^ 30` is read back as the envelope it was
made of, whatever its message holds. -/
theorem decode_serialise (hl : limit < 2 ^ 30) (h : serialise limit e = .ok payload) :
    decode payload = .ok e := by
  obtain ⟨rfl, hc⟩ := serialise_eq_ok h
  have hlen : (Archive.Format.envelope.write e).length < 2 ^ 30 :=
    lt_of_le_of_lt (hc.trans (capacity_le limit)) hl
  unfold decode
  rw [Archive.Format.read_write _ hlen]

/-- A response with a text in place and one elsewhere, a value in a value, and a NaN. -/
def sampleResponse : Envelope :=
  .make 7 "request-0001" (.invocationResponse
    { invocationId := "inv"
      outputs := [⟨"rows", .texts ["short", "longer than eight"]⟩, ⟨"nan", .doubles [⟨0x7ff8000000000001⟩]⟩]
      returnValue := some (.http { method := "GET", headers := [("a", "b")], body := some [0, 255] })
      result := .failure { message := "boom", isUser := true }
      traceContext := none
      retryContext := none })

theorem decode_serialise_sampleResponse :
    ∃ payload, serialise 1024 sampleResponse = .ok payload ∧ decode payload = .ok sampleResponse := by
  have hlen : (Archive.Format.envelope.write sampleResponse).length ≤ 1024 := by decide +kernel
  have hs : serialise 1024 sampleResponse = .ok (Archive.Format.envelope.write sampleResponse) :=
    serialise_of_le (hlen.trans (by decide)) (hlen.trans (by decide))
  exact ⟨_, hs, decode_serialise (by norm_num) hs⟩

end FunctionWorker.Frame
