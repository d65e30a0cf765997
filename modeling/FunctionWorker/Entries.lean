/-
Lists of entries with distinct keys, in the order in which the keys came first.
-/

namespace FunctionWorker.Entries

/-- Puts an entry under its key, in the place of an earlier one if there is one. -/
def put {α : Type} (key : String) (value : α) : List (String × α) → List (String × α)
  | [] => [(key, value)]
  | (k, v) :: rest => if k = key then (key, value) :: rest else (k, v) :: put key value rest

end FunctionWorker.Entries
