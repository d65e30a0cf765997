/-
The tables of a TOML text while it is read. A table comes about by its own header, by a header of a
table inside it, or by a dotted key, and that decides what may still be added to it: a table with a
header of its own has no second one and takes no dotted keys from outside, a table made by dotted
keys takes only such keys and tables inside it. What is written in brackets or braces is closed.
-/
import FunctionWorker.Entries
import FunctionWorker.Json.Basic

namespace FunctionWorker.Toml

/-- How a table came about. -/
inductive Origin where
  | header
  /-- By the header of a table inside it. -/
  | path
  | dotted
deriving DecidableEq, Inhabited, Repr

inductive Node where
  | closed (v : Json)
  | table (origin : Origin) (entries : List (String × Node))
  /-- The tables of an array, the last of which is open. -/
  | tables (former : List (List (String × Node))) (last : List (String × Node))
deriving Inhabited

/-- The entries of a table. -/
abbrev Table := List (String × Node)

namespace Table

/-- Puts a value under a key behind a path of dotted keys. -/
def assign (key : String) (value : Json) : List String → Table → Option Table
  | [], t => if (t.lookup key).isSome then none else some (t ++ [(key, .closed value)])
  | k :: ks, t =>
    match t.lookup k with
    | none => (assign key value ks []).map fun u => t ++ [(k, .table .dotted u)]
    | some (.closed _) => none
    | some (.table origin u) =>
      if origin = .header || (ks.isEmpty && origin ≠ .dotted) then none
      else (assign key value ks u).map fun u => Entries.put k (.table origin u) t
    | some (.tables former u) =>
      if ks.isEmpty then none
      else (assign key value ks u).map fun u => Entries.put k (.tables former u) t

/-- Changes the table at the end of a header's path; tables that are missing on the way are made.
The change is told what is there under the last key. -/
def change (f : Option Node → Option Node) : List String → Table → Option Table
  | [], t => some t
  | [k], t => (f (t.lookup k)).map fun x => Entries.put k x t
  | k :: ks, t =>
    match t.lookup k with
    | none => (change f ks []).map fun u => Entries.put k (.table .path u) t
    | some (.closed _) => none
    | some (.table origin u) => (change f ks u).map fun u => Entries.put k (.table origin u) t
    | some (.tables former u) =>
      (change f ks u).map fun u => Entries.put k (.tables former u) t

/-- The table of a header; only one that came about by a path may be there already. -/
def opened : Option Node → Option Node
  | none => some (.table .header [])
  | some (.table .path t) => some (.table .header t)
  | _ => none

/-- A further table of an array. -/
def appended : Option Node → Option Node
  | none => some (.tables [] [])
  | some (.tables former last) => some (.tables (former ++ [last]) [])
  | _ => none

/-- Puts a value into the table that was opened last. -/
def assigned (path : List String) (key : String) (value : Json) : Option Node → Option Node
  | some (.table origin t) => (assign key value path t).map (.table origin)
  | some (.tables former t) => (assign key value path t).map (.tables former)
  | _ => none

end Table

mutual

/-- The value of a node. -/
def Node.toJson : Node → Json
  | .closed v => v
  | .table _ entries => .ofMembers (Node.members entries)
  | .tables former last => .array (Node.items former ++ [.ofMembers (Node.members last)])

def Node.members : List (String × Node) → List (String × Json)
  | [] => []
  | (k, x) :: rest => (k, x.toJson) :: Node.members rest

def Node.items : List (List (String × Node)) → List Json
  | [] => []
  | t :: ts => .ofMembers (Node.members t) :: Node.items ts

end

end FunctionWorker.Toml
