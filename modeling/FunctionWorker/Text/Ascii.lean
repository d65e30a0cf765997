/-
Letters without case, for the names of bindings, headers and outputs: two names are the same
when they differ only in the case of ASCII letters. Letters outside ASCII keep their case.
-/

namespace FunctionWorker.Text

/-- The lower-case form of an ASCII letter; every other character is its own. -/
def lower (c : Char) : Char :=
  if 'A' ≤ c ∧ c ≤ 'Z' then Char.ofNat (c.toNat + 32) else c

/-- The upper-case form of an ASCII letter; every other character is its own. -/
def upper (c : Char) : Char :=
  if 'a' ≤ c ∧ c ≤ 'z' then Char.ofNat (c.toNat - 32) else c

/-- The key under which a name is looked up when case is ignored. -/
def fold (s : String) : String := s.map lower

/-- Names that differ at most in the case of ASCII letters. -/
def sameName (a b : String) : Bool := fold a == fold b

theorem sameName_refl (a : String) : sameName a a = true := by simp [sameName]

theorem sameName_comm (a b : String) : sameName a b = sameName b a := by
  simp only [sameName]; exact Bool.beq_comm

theorem sameName_trans {a b c : String} (h₁ : sameName a b = true) (h₂ : sameName b c = true) :
    sameName a c = true := by
  simp only [sameName, beq_iff_eq] at *; rw [h₁, h₂]

/-- The value under the first name that is the same. -/
def lookup {α : Type} (entries : List (String × α)) (name : String) : Option α :=
  (entries.find? (fun e => sameName e.1 name)).map (·.2)

end FunctionWorker.Text
