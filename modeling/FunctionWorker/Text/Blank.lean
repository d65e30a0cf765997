/-
White space and its removal at both ends of a text. The class is the one of the Unicode property
White_Space.
-/

namespace FunctionWorker.Text

/-- The first and last code point of each run of white space. -/
def blankRanges : List (Nat × Nat) :=
  [(0x09, 0x0d), (0x20, 0x20), (0x85, 0x85), (0xa0, 0xa0), (0x1680, 0x1680), (0x2000, 0x200a),
    (0x2028, 0x2029), (0x202f, 0x202f), (0x205f, 0x205f), (0x3000, 0x3000)]

def isBlank (c : Char) : Bool := blankRanges.any fun r => r.1 ≤ c.toNat && c.toNat ≤ r.2

/-- Drops the characters of a class at both ends. -/
def stripList (p : Char → Bool) (cs : List Char) : List Char :=
  ((cs.dropWhile p).reverse.dropWhile p).reverse

/-- Drops the characters of a class at both ends. -/
def strip (p : Char → Bool) (s : String) : String := String.ofList (stripList p s.toList)

/-- A text without white space around it. -/
def trim (s : String) : String := strip isBlank s

end FunctionWorker.Text
