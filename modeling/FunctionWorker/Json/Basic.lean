/-
JSON values. Numbers are whole numbers or doubles; the members of an object are kept in the order
of their keys, each key once, so that equal objects have one form.
-/
import FunctionWorker.Double.Basic

namespace FunctionWorker

inductive Json where
  | null
  | bool (b : Bool)
  | int (i : Int)
  | double (d : Double)
  | text (s : String)
  | array (items : List Json)
  | object (members : List (String × Json))
deriving Inhabited, Repr

namespace Json

/-- Puts a member at its place; an earlier one of the same key is replaced. -/
def insert (key : String) (value : Json) : List (String × Json) → List (String × Json)
  | [] => [(key, value)]
  | (k, v) :: rest =>
    if key < k then (key, value) :: (k, v) :: rest
    else if k = key then (key, value) :: rest
    else (k, v) :: insert key value rest

/-- The object with these members; the last one of a key counts. -/
def ofMembers (members : List (String × Json)) : Json :=
  .object (members.foldl (fun acc m => insert m.1 m.2 acc) [])

/-- Whole numbers that keep their digits: those of 64 bits, signed or unsigned. Others become
doubles when they are read. -/
def isExact (i : Int) : Bool := -0x8000000000000000 ≤ i && i < 0x10000000000000000

end Json

end FunctionWorker
