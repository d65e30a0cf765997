/-
A scheduler for the machine: tasks run one at a time until they cannot go on, first come first
served. A task that cannot go on is set aside; as soon as it could, it joins the end of the line,
and tasks that can go on at the same moment join in the order in which they were set aside.
-/
import FunctionWorker.Bridge.Machine

namespace FunctionWorker

/-- A bridge with the order of its tasks. -/
structure Schedule {Op : Type} (R : Op → Type) (σ : Type) where
  bridge : Bridge R σ
  /-- The tasks that can go on, in order; the first one is running. -/
  line : List Nat := []
  /-- The tasks set aside, each with the number of the occasion. -/
  aside : List (Nat × Nat) := []
  /-- The number of the next occasion. -/
  occasion : Nat := 0
  /-- The occasion on which each task was set aside first. -/
  first : List (Nat × Nat) := []
  /-- The tasks below this number have been put in line once. -/
  known : Nat := 0
  /-- What was seen so far, latest first. -/
  seen : List Occurrence := []

namespace Schedule

variable {Op : Type} {R : Op → Type} {σ : Type}

/-- The rank of a task set aside. A task watching for its deadline has been waiting for it since it
was first set aside. -/
def rank (x : Schedule R σ) (entry : Nat × Nat) : Nat :=
  match x.bridge.activity? entry.2 with
  | some (.watch deadline _) =>
    if deadline ≤ x.bridge.clock then (x.first.lookup entry.2).getD entry.1 else entry.1
  | _ => entry.1

def canGo (s : Stream R σ) (b : Bridge R σ) (t : Nat) : Bool := (b.step s t).isSome

/-- Puts new tasks in line, and those set aside that can go on. -/
def wake (s : Stream R σ) (x : Schedule R σ) : Schedule R σ :=
  let fresh := ((x.bridge.tasks.map (·.1)).filter (x.known ≤ ·))
  let able := x.aside.filter (canGo s x.bridge ·.2)
  let woken := able.mergeSort fun a b => rank x a ≤ rank x b
  { x with
    line := x.line ++ woken.map (·.2) ++ fresh
    aside := x.aside.filter (!canGo s x.bridge ·.2)
    known := x.bridge.nextTask }

/-- Lets the running task take a step, or sets it aside. -/
def advance (s : Stream R σ) (x : Schedule R σ) (t : Nat) (rest : List Nat) : Schedule R σ :=
  match x.bridge.step s t with
  | some (seen, b) =>
    let stays := (b.activity? t).isSome
    wake s { x with
      bridge := b, line := if stays then t :: rest else rest, seen := seen.reverse ++ x.seen }
  | none =>
    { x with
      line := rest
      aside := if (x.bridge.activity? t).isSome then x.aside ++ [(x.occasion, t)] else x.aside
      first := if (x.first.lookup t).isSome then x.first else (t, x.occasion) :: x.first
      occasion := x.occasion + 1 }

/-- Runs until no task can go on, for at most so many steps. -/
def settle (s : Stream R σ) : Nat → Schedule R σ → Schedule R σ
  | 0, x => x
  | fuel + 1, x =>
    match x.line with
    | [] => x
    | t :: rest => settle s fuel (advance s x t rest)

/-- Changes the bridge from outside and runs on. -/
def act (s : Stream R σ) (fuel : Nat) (change : Bridge R σ → Bridge R σ) (x : Schedule R σ) :
    Schedule R σ :=
  settle s fuel (wake s { x with bridge := change x.bridge })

/-- Lets so many milliseconds pass, one at a time. -/
def pass (s : Stream R σ) (fuel : Nat) : Nat → Schedule R σ → Schedule R σ
  | 0, x => x
  | ms + 1, x => pass s fuel ms (act s fuel Bridge.tick x)

end Schedule

end FunctionWorker
