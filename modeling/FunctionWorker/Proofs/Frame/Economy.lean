/-
What a payload can hold. An envelope that is decoded has no more octets in its texts and byte strings, and no
more items in its lists, than the payload has octets: every octet of the payload counts for one value at most,
so a small frame does not grow when it is read.
-/
import FunctionWorker.Proofs.Archive.Economy
import FunctionWorker.Proofs.Frame.Payload

namespace FunctionWorker

/-- The octets of all texts and byte strings in an envelope. -/
def Envelope.octets (e : Envelope) : Nat := (Archive.Format.envelope.toNode e).octets

/-- The items of all lists in an envelope, byte strings among them. -/
def Envelope.items (e : Envelope) : Nat := (Archive.Format.envelope.toNode e).items

namespace Frame

/-- The places of a payload that are looked at for its envelope, value by value. -/
def places (payload : Bytes) : List Nat := Archive.placesOf Archive.Format.envelope.layout payload

/-- What a payload has to do with the envelope that is read from it. -/
structure Economic (payload : Bytes) (e : Envelope) : Prop where
  octets_le : e.octets ≤ payload.length
  items_le : e.items ≤ payload.length
  /-- No octet is looked at twice, be it for one value or for two. -/
  nodup : (places payload).Nodup
  within : ∀ p ∈ places payload, p < payload.length
  /-- No other octet has anything to do with the envelope. -/
  enough : ∀ other : Bytes, other.length = payload.length → (∀ p ∈ places payload, payload[p]? = other[p]?) →
    decode other = .ok e

variable {payload : Bytes} {e : Envelope}

theorem read_of_decode (h : decode payload = .ok e) : Archive.Format.envelope.read payload = some e := by
  unfold decode at h
  split at h
  · rename_i e' hread
    cases h
    exact hread
  · cases h

/-- Whatever payload is accepted, each value of its envelope has places of its own in it. -/
theorem decode_economic (h : decode payload = .ok e) : Economic payload e := by
  have hregular : Archive.Format.envelope.layout.regular = true := by decide
  have hread := read_of_decode h
  have hdata := Archive.Format.data_of_read hregular hread
  have hholds := Archive.holds_of_read hregular hdata
  refine ⟨hholds.octets_le, hholds.items_le, hholds.nodup, hholds.within, fun other hlength hagrees => ?_⟩
  have halike : Archive.Format.envelope.read other = some e := by
    rw [← hread]
    unfold Archive.Format.read
    rw [Archive.read_alike hlength hagrees]
  unfold decode
  rw [halike]

example : (sampleResponse.octets, sampleResponse.items) = (55, 8) := by decide +kernel

theorem decode_economic_sample : decode (Archive.Format.envelope.write sampleResponse) = .ok sampleResponse ∧
    Economic (Archive.Format.envelope.write sampleResponse) sampleResponse := by
  have hlength : (Archive.Format.envelope.write sampleResponse).length < 2 ^ 30 := by decide +kernel
  have h : decode (Archive.Format.envelope.write sampleResponse) = .ok sampleResponse := by
    unfold decode
    rw [Archive.Format.read_write _ hlength]
  exact ⟨h, decode_economic h⟩

end Frame

end FunctionWorker
