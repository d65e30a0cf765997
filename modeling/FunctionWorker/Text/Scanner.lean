/-
Scanners read from the front of a list of characters, or fail. An alternative starts over where the
one before it started.
-/

namespace FunctionWorker.Text

abbrev Scanner (α : Type) := StateT (List Char) Option α

namespace Scanner

variable {α : Type}

def fail : Scanner α := fun _ => none

def atEnd : Scanner Bool := fun cs => some (cs.isEmpty, cs)

/-- The next character, which stays. -/
def peek : Scanner (Option Char) := fun cs => some (cs.head?, cs)

def next : Scanner Char
  | [] => none
  | c :: cs => some (c, cs)

/-- The next character, which must have a property. -/
def satisfy (p : Char → Bool) : Scanner Char := do
  let c ← next
  if p c then return c else fail

def expect (c : Char) : Scanner Unit := do
  let _ ← satisfy (· == c)
  return ()

/-- Reads a word if it comes next, and tells whether it did. -/
def accept (word : String) : Scanner Bool := fun cs =>
  if word.toList.isPrefixOf cs then some (true, cs.drop word.toList.length) else some (false, cs)

def takeWhile (p : Char → Bool) : Scanner (List Char) := fun cs =>
  some (cs.takeWhile p, cs.dropWhile p)

def skipWhile (p : Char → Bool) : Scanner Unit := fun cs => some ((), cs.dropWhile p)

/-- Repeats a scanner that yields items and says whether to go on, at most so many times. -/
def gatherAtMost (s : Scanner (List α × Bool)) : Nat → Scanner (List α)
  | 0 => fail
  | fuel + 1 => do
    let (items, more) ← s
    if more then return items ++ (← gatherAtMost s fuel) else return items

/-- Repeats a scanner that yields items and says whether to go on. One that goes on must have read
something, so the length of the input bounds the repetitions. -/
def gather (s : Scanner (List α × Bool)) : Scanner (List α) := fun cs =>
  gatherAtMost s (cs.length + 1) cs

/-- What a scanner makes of a text, if it reads all of it. -/
def whole (s : Scanner α) (text : String) : Option α :=
  match s text.toList with
  | some (a, []) => some a
  | _ => none

end Scanner

end FunctionWorker.Text
