/-
The order of the converters in the standard chain. Each of them takes up shapes of its own family, and where
two take up the same value they make the same of it; so neighbours can change places, and in whatever order
they are asked a parameter is bound to the same value or fails for the same cause.
-/
import FunctionWorker.Proofs.Conversion.Chain
import Mathlib.Tactic

namespace FunctionWorker

variable {r : BindingRequest}

/-! ## Converters that agree -/

/-- A converter answers a request at once, without making any call. -/
def Converter.Answers (x : Converter) (r : BindingRequest) (a : Conversion) : Prop := x.convert r = .done a

theorem Converter.Answers.unique {x : Converter} {a b : Conversion} (ha : x.Answers r a) (hb : x.Answers r b) :
    a = b := by
  unfold Answers at ha hb
  rw [ha] at hb
  cases hb
  rfl

/-- Two answers do not contradict each other: one is none, or they are the same value. -/
inductive Conversion.Agree : Conversion → Conversion → Prop
  | left (b : Conversion) : Agree .unhandled b
  | right (a : Conversion) : Agree a .unhandled
  | same (d : Datum) : Agree (.succeeded d) (.succeeded d)

theorem Conversion.Agree.symm {a b : Conversion} (h : a.Agree b) : b.Agree a := by
  cases h with
  | left => exact .right _
  | right => exact .left _
  | same d => exact .same d

/-- Two converters whose answers to a request do not contradict each other. -/
def Converter.AgreeOn (r : BindingRequest) (x y : Converter) : Prop :=
  ∀ a b, x.Answers r a → y.Answers r b → a.Agree b

theorem Converter.AgreeOn.symm {x y : Converter} (h : x.AgreeOn r y) : y.AgreeOn r x := fun a b hy hx =>
  (h b a hx hy).symm

namespace ConverterChain

/-- What comes of converters that are asked in order, whichever of them makes the value. -/
def bindWith (r : BindingRequest) (failure : Option String) (converters : List Converter) :
    Job (Except ConversionError Datum) :=
  (·.map (·.value)) <$> convertWith r failure converters

section

variable {failure : Option String} {x y : Converter} {xs ys : List Converter} {d : Datum} {reason : String}

theorem bindWith_of_unhandled (h : x.Answers r .unhandled) :
    bindWith r failure (x :: xs) = bindWith r failure xs := by
  unfold bindWith
  rw [convertWith, show x.convert r = .done .unhandled from h]
  rfl

theorem bindWith_of_succeeded (h : x.Answers r (.succeeded d)) : bindWith r failure (x :: xs) = .done (.ok d) := by
  unfold bindWith
  rw [convertWith, show x.convert r = .done (.succeeded d) from h]
  rfl

theorem bindWith_of_failed (h : x.Answers r (.failed reason)) :
    bindWith r failure (x :: xs) = bindWith r (failure.or (some (x.name ++ ": " ++ reason))) xs := by
  unfold bindWith
  rw [convertWith, show x.convert r = .done (.failed reason) from h]
  rfl

/-- A converter that leaves a request alone can be asked before or after another one. -/
theorem bindWith_swap_unhandled (hx : x.Answers r .unhandled) (hy : ∃ b, y.Answers r b) :
    bindWith r failure (x :: y :: xs) = bindWith r failure (y :: x :: xs) := by
  rw [bindWith_of_unhandled hx]
  obtain ⟨b, hy⟩ := hy
  cases b with
  | unhandled => rw [bindWith_of_unhandled hy, bindWith_of_unhandled hy, bindWith_of_unhandled hx]
  | succeeded d => rw [bindWith_of_succeeded hy, bindWith_of_succeeded hy]
  | failed reason => rw [bindWith_of_failed hy, bindWith_of_failed hy, bindWith_of_unhandled hx]

/-- Converters that agree can be asked in either order. -/
theorem bindWith_swap (hx : ∃ a, x.Answers r a) (hy : ∃ b, y.Answers r b) (hagree : x.AgreeOn r y) :
    bindWith r failure (x :: y :: xs) = bindWith r failure (y :: x :: xs) := by
  obtain ⟨a, ha⟩ := hx
  obtain ⟨b, hb⟩ := hy
  cases hagree a b ha hb with
  | left => exact bindWith_swap_unhandled ha ⟨b, hb⟩
  | right => exact (bindWith_swap_unhandled hb ⟨a, ha⟩).symm
  | same d => rw [bindWith_of_succeeded ha, bindWith_of_succeeded hb]

/-- What comes of converters that agree does not depend on their order. -/
theorem bindWith_perm (h : xs.Perm ys) (hanswer : ∀ x ∈ xs, ∃ a, x.Answers r a)
    (hagree : xs.Pairwise (Converter.AgreeOn r)) (failure : Option String) :
    bindWith r failure xs = bindWith r failure ys := by
  induction h generalizing failure with
  | nil => rfl
  | @cons x xs ys _ ih =>
    have ih := ih (fun z hz => hanswer z (List.mem_cons_of_mem _ hz)) (List.pairwise_cons.1 hagree).2
    obtain ⟨a, ha⟩ := hanswer x (List.mem_cons_self ..)
    cases a with
    | unhandled => rw [bindWith_of_unhandled ha, bindWith_of_unhandled ha, ih]
    | succeeded d => rw [bindWith_of_succeeded ha, bindWith_of_succeeded ha]
    | failed reason => rw [bindWith_of_failed ha, bindWith_of_failed ha, ih]
  | swap x y xs =>
    refine bindWith_swap (hanswer y (by simp)) (hanswer x (by simp)) ?_
    exact (List.pairwise_cons.1 hagree).1 x (List.mem_cons_self ..)
  | trans hxy _ ih₁ ih₂ =>
    rw [ih₁ hanswer hagree failure]
    refine ih₂ (fun z hz => hanswer z (hxy.mem_iff.2 hz)) ?_ failure
    exact hagree.perm hxy fun h => h.symm

/-- Converters that answer at once come to an end at once. -/
theorem convertWith_ends (hanswer : ∀ x ∈ xs, ∃ a, x.Answers r a) (failure : Option String) :
    ∃ outcome, convertWith r failure xs = .done outcome := by
  induction xs generalizing failure with
  | nil => exact ⟨_, rfl⟩
  | cons x xs ih =>
    have ih := ih fun z hz => hanswer z (List.mem_cons_of_mem _ hz)
    obtain ⟨a, ha⟩ := hanswer x (List.mem_cons_self ..)
    rw [convertWith, show x.convert r = .done a from ha]
    cases a with
    | unhandled => exact ih failure
    | succeeded d => exact ⟨_, rfl⟩
    | failed reason => exact ih _

end

end ConverterChain

/-! ## Families of shapes -/

/-- What a value of a shape is made from. -/
inductive Shape.Family where
  /-- The content of a value. -/
  | scalar
  /-- A list of values. -/
  | list
  /-- The value as it is. -/
  | whole
  /-- The invocation. -/
  | invocation
  | output
  | json
  | custom
deriving DecidableEq

def Shape.family : Shape → Shape.Family
  | .text | .bytes | .bool | .i32 | .i64 | .u32 | .u64 | .double => .scalar
  | .texts | .byteStrings | .doubles | .integers => .list
  | .http | .wire => .whole
  | .context | .cancellation => .invocation
  | .output _ => .output
  | .json _ _ => .json
  | .custom => .custom

namespace Builtin

open Shape (Family)

/-- A converter leaves requests for shapes of other families alone. -/
def Within (families : List Family) (f : BindingRequest → Conversion) : Prop :=
  ∀ r, f r ≠ .unhandled → r.parameter.type.shape.family ∈ families

theorem identity_within : Within [.scalar, .list, .whole] identity := by
  intro r h
  unfold identity at h
  split at h
  case h_9 => exact absurd rfl h
  all_goals simp only [*, Shape.family]; decide

theorem context_within : Within [.invocation] context := by
  intro r h
  unfold context at h
  split at h
  case h_3 => exact absurd rfl h
  all_goals simp only [*, Shape.family]; decide

theorem output_within : Within [.output] output := by
  intro r h
  unfold output at h
  split at h
  case h_2 => exact absurd rfl h
  all_goals simp only [*, Shape.family]; decide

theorem collection_within : Within [.list] collection := by
  intro r h
  unfold collection at h
  split at h
  case h_10 => exact absurd rfl h
  all_goals simp only [*, Shape.family]; decide

theorem primitive_within : Within [.scalar] primitive := by
  intro r h
  unfold primitive at h
  split at h
  · exact absurd rfl h
  · split at h
    case h_9 => exact absurd rfl h
    all_goals simp only [*, Shape.family]; decide

theorem json_within : Within [.json] json := by
  intro r h
  unfold json at h
  split at h
  case h_2 => exact absurd rfl h
  all_goals simp only [*, Shape.family]; decide

/-! ## Agreement -/

variable {f g : BindingRequest → Conversion} {s t : List Family}

theorem Within.unhandled (hf : Within s f) (hr : r.parameter.type.shape.family ∉ s) : f r = .unhandled := by
  by_contra h
  exact hr (hf r h)

/-- Converters of different families agree. -/
theorem Within.agree (hf : Within s f) (hg : Within t g) (hdisjoint : ∀ x ∈ s, x ∉ t) (r : BindingRequest) :
    (f r).Agree (g r) := by
  by_cases hr : r.parameter.type.shape.family ∈ s
  · rw [hg.unhandled (hdisjoint _ hr)]
    exact .right _
  · rw [hf.unhandled hr]
    exact .left _

/-- A list of the kind that is asked for needs no conversion. -/
theorem identity_agree_collection (r : BindingRequest) : (identity r).Agree (collection r) := by
  unfold identity
  split
  case h_4 hshape hsource | h_5 hshape hsource | h_6 hshape hsource | h_7 hshape hsource =>
    have hunhandled : collection r = .unhandled := by
      unfold collection
      rw [hshape, hsource]
    rw [hunhandled]
    exact .right _
  case h_9 => exact .left _
  case h_1 _ hshape | h_2 hshape _ | h_3 hshape _ | h_8 hshape _ =>
    rw [collection_within.unhandled (by rw [hshape]; decide)]
    exact .right _

/-- A text or octets that are asked for as such are their own content. -/
theorem identity_agree_primitive (r : BindingRequest) : (identity r).Agree (primitive r) := by
  unfold identity
  split
  case h_2 hshape hsource | h_3 hshape hsource =>
    unfold primitive
    rw [hshape, hsource]
    exact .same _
  case h_9 => exact .left _
  case h_1 _ hshape | h_4 hshape _ | h_5 hshape _ | h_6 hshape _ | h_7 hshape _ | h_8 hshape _ =>
    rw [primitive_within.unhandled (by rw [hshape]; decide)]
    exact .right _

/-! ## The standard chain -/

theorem answers_ofFunction (name : String) (f : BindingRequest → Conversion) (r : BindingRequest) :
    (Converter.ofFunction name f).Answers r (f r) := rfl

theorem agreeOn_ofFunction {name name' : String} (h : (f r).Agree (g r)) :
    (Converter.ofFunction name f).AgreeOn r (.ofFunction name' g) := by
  intro a b ha hb
  rw [ha.unique (answers_ofFunction name f r), hb.unique (answers_ofFunction name' g r)]
  exact h

theorem converters_answer (r : BindingRequest) : ∀ x ∈ converters, ∃ a, x.Answers r a := by
  intro x hx
  simp only [converters, List.mem_cons, List.not_mem_nil, or_false] at hx
  rcases hx with rfl | rfl | rfl | rfl | rfl | rfl <;> exact ⟨_, answers_ofFunction ..⟩

/-- Any two of the converters agree: those that share a family make the same of what both take up. -/
theorem converters_agree (r : BindingRequest) : converters.Pairwise (Converter.AgreeOn r) := by
  have apart {f g : BindingRequest → Conversion} {s t : List Family} {n m : String} (hf : Within s f)
      (hg : Within t g) (hdisjoint : ∀ x ∈ s, x ∉ t) : (Converter.ofFunction n f).AgreeOn r (.ofFunction m g) :=
    agreeOn_ofFunction (hf.agree hg hdisjoint r)
  simp only [converters, List.pairwise_cons, List.mem_cons, List.not_mem_nil, or_false, forall_eq_or_imp, forall_eq]
  refine ⟨⟨apart identity_within context_within ?_, apart identity_within output_within ?_,
      agreeOn_ofFunction (identity_agree_collection r), agreeOn_ofFunction (identity_agree_primitive r),
      apart identity_within json_within ?_⟩,
    ⟨apart context_within output_within ?_, apart context_within collection_within ?_,
      apart context_within primitive_within ?_, apart context_within json_within ?_⟩,
    ⟨apart output_within collection_within ?_, apart output_within primitive_within ?_,
      apart output_within json_within ?_⟩,
    ⟨apart collection_within primitive_within ?_, apart collection_within json_within ?_⟩,
    apart primitive_within json_within ?_, nofun, .nil⟩
  all_goals decide

end Builtin

namespace ConverterChain

/-- The order of the standard converters is of no consequence: in whatever order they are asked, the chain comes
to an end, and the parameter is bound to the same value or the same error with the same cause is reported. Only the
name of the converter that made the value may differ. -/
theorem convert_permuted {converters : List Converter} (h : converters.Perm Builtin.converters) (r : BindingRequest) :
    ∃ outcome outcome' : Except ConversionError Converted,
      (⟨converters⟩ : ConverterChain).convert r = .done outcome ∧ standard.convert r = .done outcome' ∧
        outcome.map (·.value) = outcome'.map (·.value) := by
  have hanswer := Builtin.converters_answer r
  obtain ⟨outcome, houtcome⟩ := convertWith_ends (fun x hx => hanswer x (h.mem_iff.1 hx)) none
  obtain ⟨outcome', houtcome'⟩ := convertWith_ends hanswer none
  refine ⟨outcome, outcome', houtcome, houtcome', ?_⟩
  have hsame := bindWith_perm h.symm hanswer (Builtin.converters_agree r) none
  unfold bindWith at hsame
  rw [houtcome, houtcome'] at hsame
  exact (Routine.done.inj hsame).symm

/-- A text that is asked for as a text. -/
def plainText : BindingRequest := ⟨⟨"name", .text, .input⟩, some (.text "ada"), 0, 0⟩

/-- Asked from the last to the first, another converter makes the same value. -/
theorem convert_permuted_backwards :
    Builtin.converters.reverse.Perm Builtin.converters ∧
      ∃ outcome outcome' : Except ConversionError Converted,
        (⟨Builtin.converters.reverse⟩ : ConverterChain).convert plainText = .done outcome ∧
          standard.convert plainText = .done outcome' ∧ outcome.map (·.value) = outcome'.map (·.value) ∧
          outcome = .ok ⟨.text "ada", "primitive"⟩ ∧ outcome' = .ok ⟨.text "ada", "identity"⟩ := by
  have hreverse := Builtin.converters.reverse_perm
  obtain ⟨outcome, outcome', h, h', hsame⟩ := convert_permuted hreverse plainText
  have hbackwards : (⟨Builtin.converters.reverse⟩ : ConverterChain).convert plainText =
      .done (.ok ⟨.text "ada", "primitive"⟩) := rfl
  have hstandard : standard.convert plainText = .done (.ok ⟨.text "ada", "identity"⟩) := rfl
  exact ⟨hreverse, outcome, outcome', h, h', hsame, (Routine.done.inj (hbackwards.symm.trans h)).symm,
    (Routine.done.inj (hstandard.symm.trans h')).symm⟩

end ConverterChain

end FunctionWorker
