/-
Formats that lose nothing: what a format makes of a value is data of its layout, and the value is
taken back from it. Every format of a message part is one, and so envelopes survive their archive.
-/
import FunctionWorker.Proofs.Archive.RoundTrip
import FunctionWorker.Wire.Archive

namespace FunctionWorker.Archive.Format

variable {α β : Type}

/-- A format that loses nothing. -/
class Lawful (f : Format α) : Prop where
  fits_toNode : ∀ x, Fits f.layout (f.toNode x)
  ofNode_toNode : ∀ x, f.ofNode? (f.toNode x) = some x

/-- A format whose values take up octets, so that they can be the items of a list. -/
class Solid (f : Format α) : Prop extends Lawful f where
  size_pos : 0 < f.layout.size
  alignment_pos : 0 < f.layout.alignment

export Lawful (fits_toNode ofNode_toNode)

/-- What a lawful format writes in fewer than `2 ^ 30` octets is read back. -/
theorem read_write (f : Format α) [f.Lawful] {x : α} (h : (f.write x).length < 2 ^ 30) :
    f.read (f.write x) = some x := by
  unfold read write at *
  rw [Archive.read_write (fits_toNode x) h, Option.bind_some, ofNode_toNode]

/-! ## Basic types, lists and options -/

instance : text.Solid where
  fits_toNode _ := trivial
  ofNode_toNode _ := rfl
  size_pos := by decide
  alignment_pos := by decide

instance : bytes.Solid where
  fits_toNode _ := trivial
  ofNode_toNode _ := rfl
  size_pos := by decide
  alignment_pos := by decide

instance : bool.Lawful := ⟨fun _ => trivial, fun _ => rfl⟩

instance : u16.Lawful where
  fits_toNode n := ⟨by decide, n.toNat_lt⟩
  ofNode_toNode n := by simp only [u16, UInt16.ofNat_toNat]

instance : u64.Lawful where
  fits_toNode n := ⟨by decide, n.toNat_lt⟩
  ofNode_toNode n := by simp only [u64, UInt64.ofNat_toNat]

instance : i32.Lawful where
  fits_toNode n := ⟨by decide, n.toUInt32.toNat_lt⟩
  ofNode_toNode n := by simp only [i32, UInt32.ofNat_toNat]; rfl

instance : i64.Solid where
  fits_toNode n := ⟨by decide, n.toUInt64.toNat_lt⟩
  ofNode_toNode n := by simp only [i64, UInt64.ofNat_toNat]; rfl
  size_pos := by decide
  alignment_pos := by decide

instance : double.Solid where
  fits_toNode d := ⟨by decide, d.bits.toNat_lt⟩
  ofNode_toNode d := by simp only [double, UInt64.ofNat_toNat]
  size_pos := by decide
  alignment_pos := by decide

/-- Nodes of items, each of which gives its value back, give all the values back. -/
theorem mapM_ofNode (f : Format α) [f.Lawful] :
    ∀ xs : List α, (xs.map f.toNode).mapM f.ofNode? = some xs
  | [] => rfl
  | x :: xs => by
    rw [List.map_cons, List.mapM_cons, ofNode_toNode, mapM_ofNode f xs]
    rfl

instance (f : Format α) [hf : f.Solid] : (list f).Solid where
  fits_toNode xs := by
    refine ⟨⟨hf.size_pos, hf.alignment_pos⟩, fun n hn => ?_⟩
    obtain ⟨x, -, rfl⟩ := List.mem_map.1 hn
    exact fits_toNode x
  ofNode_toNode xs := mapM_ofNode f xs
  size_pos := by simp only [list, Layout.size]; norm_num
  alignment_pos := by simp only [list, Layout.alignment]; norm_num

instance (f : Format α) [f.Lawful] : (option f).Lawful where
  fits_toNode x := by
    cases x with
    | none => exact ⟨by norm_num, trivial⟩
    | some x => exact ⟨by norm_num, fits_toNode x, trivial⟩
  ofNode_toNode x := by
    cases x with
    | none => rfl
    | some x => simp only [option, ofNode_toNode, Option.map_some]

instance (f : Format α) (g : Format β) [f.Lawful] [g.Lawful] : (pair f g).Lawful where
  fits_toNode x := ⟨fits_toNode x.1, fits_toNode x.2, trivial⟩
  ofNode_toNode x := by simp only [pair, ofNode_toNode]; rfl

instance (f : Format α) [hf : f.Lawful] : (single f).Lawful where
  fits_toNode x := ⟨hf.fits_toNode x, trivial⟩
  ofNode_toNode x := hf.ofNode_toNode x

/-- A pair takes up octets if its first part does. -/
theorem pair_solid (f : Format α) (g : Format β) [f.Lawful] [g.Lawful]
    (h : 0 < (pair f g).layout.size) : (pair f g).Solid :=
  ⟨h, one_le_alignmentOfFields _⟩

instance : pairs.Solid :=
  have := pair_solid text text (by decide)
  inferInstanceAs (list (pair text text)).Solid

/-! ## Values -/

instance : httpRecord.Lawful where
  fits_toNode _ := ⟨fits_toNode _, fits_toNode _, fits_toNode _, fits_toNode _, fits_toNode _,
    fits_toNode _, trivial⟩
  ofNode_toNode _ := by simp only [httpRecord, ofNode_toNode]; rfl

instance : wireValue.Lawful where
  fits_toNode v := by
    cases v with
    | none => exact ⟨by norm_num, trivial⟩
    | _ => exact ⟨by norm_num, fits_toNode _, trivial⟩
  ofNode_toNode v := by
    cases v <;> simp only [wireValue, ofNode_toNode, Option.map_some]

instance : namedValue.Solid where
  fits_toNode _ := ⟨fits_toNode _, fits_toNode _, trivial⟩
  ofNode_toNode _ := by simp only [namedValue, ofNode_toNode]; rfl
  size_pos := by decide
  alignment_pos := one_le_alignmentOfFields _

/-! ## Outcomes -/

instance : status.Lawful where
  fits_toNode s := by cases s <;> exact ⟨by norm_num, trivial⟩
  ofNode_toNode s := by cases s <;> rfl

instance : exceptionRecord.Lawful where
  fits_toNode _ := ⟨fits_toNode _, fits_toNode _, fits_toNode _, fits_toNode _, fits_toNode _, trivial⟩
  ofNode_toNode _ := by simp only [exceptionRecord, ofNode_toNode]; rfl

instance : outcome.Lawful where
  fits_toNode _ := ⟨fits_toNode _, fits_toNode _, trivial⟩
  ofNode_toNode _ := by simp only [outcome, ofNode_toNode]; rfl

/-! ## Functions -/

instance : direction.Lawful where
  fits_toNode d := by cases d <;> exact ⟨by norm_num, trivial⟩
  ofNode_toNode d := by cases d <;> rfl

instance : bindingInfo.Lawful where
  fits_toNode _ := ⟨fits_toNode _, fits_toNode _, trivial⟩
  ofNode_toNode _ := by simp only [bindingInfo, ofNode_toNode]; rfl

instance : retryStrategy.Lawful where
  fits_toNode s := by
    cases s with
    | fixedDelay d => exact ⟨by norm_num, fits_toNode _, trivial⟩
    | exponentialBackoff least most => exact ⟨by norm_num, fits_toNode _, fits_toNode _, trivial⟩
  ofNode_toNode s := by
    cases s with
    | fixedDelay d => simp only [retryStrategy, ofNode_toNode, Option.map_some]
    | exponentialBackoff least most =>
      simp only [retryStrategy, ofNode_toNode]
      rfl

instance : retryPolicy.Lawful where
  fits_toNode _ := ⟨fits_toNode _, fits_toNode _, trivial⟩
  ofNode_toNode _ := by simp only [retryPolicy, ofNode_toNode]; rfl

instance : (pair text bindingInfo).Solid := pair_solid _ _ (by decide)

instance : functionMetadata.Solid where
  fits_toNode _ := ⟨fits_toNode _, fits_toNode _, fits_toNode _, fits_toNode _, fits_toNode _,
    fits_toNode _, fits_toNode _, fits_toNode _, fits_toNode _, fits_toNode _, trivial⟩
  ofNode_toNode _ := by simp only [functionMetadata, ofNode_toNode]; rfl
  size_pos := by decide
  alignment_pos := one_le_alignmentOfFields _

/-! ## Invocations -/

instance : traceContext.Lawful where
  fits_toNode _ := ⟨fits_toNode _, fits_toNode _, fits_toNode _, trivial⟩
  ofNode_toNode _ := by simp only [traceContext, ofNode_toNode]; rfl

instance : retryContext.Lawful where
  fits_toNode _ := ⟨fits_toNode _, fits_toNode _, fits_toNode _, trivial⟩
  ofNode_toNode _ := by simp only [retryContext, ofNode_toNode]; rfl

instance : (pair text wireValue).Solid := pair_solid _ _ (by decide)

instance : invocationRequest.Lawful where
  fits_toNode _ := ⟨fits_toNode _, fits_toNode _, fits_toNode _, fits_toNode _, fits_toNode _,
    fits_toNode _, trivial⟩
  ofNode_toNode _ := by simp only [invocationRequest, ofNode_toNode]; rfl

instance : invocationResponse.Lawful where
  fits_toNode _ := ⟨fits_toNode _, fits_toNode _, fits_toNode _, fits_toNode _, fits_toNode _,
    fits_toNode _, trivial⟩
  ofNode_toNode _ := by simp only [invocationResponse, ofNode_toNode]; rfl

instance : invocationCancel.Lawful where
  fits_toNode _ := ⟨fits_toNode _, fits_toNode _, trivial⟩
  ofNode_toNode _ := by simp only [invocationCancel, ofNode_toNode]; rfl

/-! ## Control messages -/

instance : workerMetadata.Lawful where
  fits_toNode _ := ⟨fits_toNode _, fits_toNode _, fits_toNode _, fits_toNode _, fits_toNode _, trivial⟩
  ofNode_toNode _ := by simp only [workerMetadata, ofNode_toNode]; rfl

instance : initRequest.Lawful where
  fits_toNode _ := ⟨fits_toNode _, fits_toNode _, fits_toNode _, trivial⟩
  ofNode_toNode _ := by simp only [initRequest, ofNode_toNode]; rfl

instance : initResponse.Lawful where
  fits_toNode _ := ⟨fits_toNode _, fits_toNode _, fits_toNode _, fits_toNode _, trivial⟩
  ofNode_toNode _ := by simp only [initResponse, ofNode_toNode]; rfl

instance : metadataResponse.Lawful where
  fits_toNode _ := ⟨fits_toNode _, fits_toNode _, fits_toNode _, trivial⟩
  ofNode_toNode _ := by simp only [metadataResponse, ofNode_toNode]; rfl

instance : loadRequest.Lawful where
  fits_toNode _ := ⟨fits_toNode _, fits_toNode _, trivial⟩
  ofNode_toNode _ := by simp only [loadRequest, ofNode_toNode]; rfl

instance : loadResponse.Lawful where
  fits_toNode _ := ⟨fits_toNode _, fits_toNode _, trivial⟩
  ofNode_toNode _ := by simp only [loadResponse, ofNode_toNode]; rfl

instance : reloadRequest.Lawful where
  fits_toNode _ := ⟨fits_toNode _, fits_toNode _, trivial⟩
  ofNode_toNode _ := by simp only [reloadRequest, ofNode_toNode]; rfl

instance : reloadResponse.Lawful where
  fits_toNode _ := ⟨fits_toNode _, fits_toNode _, fits_toNode _, trivial⟩
  ofNode_toNode _ := by simp only [reloadResponse, ofNode_toNode]; rfl

/-! ## Log records -/

instance : logLevel.Lawful where
  fits_toNode l := by cases l <;> exact ⟨by norm_num, trivial⟩
  ofNode_toNode l := by cases l <;> rfl

instance : logCategory.Lawful where
  fits_toNode c := by cases c <;> exact ⟨by norm_num, trivial⟩
  ofNode_toNode c := by cases c <;> rfl

instance : logRecord.Lawful where
  fits_toNode _ := ⟨fits_toNode _, fits_toNode _, fits_toNode _, fits_toNode _, fits_toNode _,
    fits_toNode _, trivial⟩
  ofNode_toNode _ := by simp only [logRecord, ofNode_toNode]; rfl

/-! ## Envelopes -/

instance : message.Lawful where
  fits_toNode m := by
    cases m with
    | statusRequest => exact ⟨by norm_num, trivial⟩
    | statusResponse => exact ⟨by norm_num, trivial⟩
    | _ => exact ⟨by norm_num, fits_toNode _, trivial⟩
  ofNode_toNode m := by
    cases m <;> simp only [message, ofNode_toNode, Option.map_some]

instance : header.Lawful where
  fits_toNode _ := ⟨fits_toNode _, fits_toNode _, fits_toNode _, trivial⟩
  ofNode_toNode _ := by simp only [header, ofNode_toNode]; rfl

/-- Envelopes of all kinds, with all that they may hold. -/
instance envelope_lawful : envelope.Lawful where
  fits_toNode _ := ⟨fits_toNode _, fits_toNode _, trivial⟩
  ofNode_toNode _ := by simp only [envelope, ofNode_toNode]; rfl

end FunctionWorker.Archive.Format
