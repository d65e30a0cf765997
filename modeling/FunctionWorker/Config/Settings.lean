/-
Settings: objects laid over one another. Where two layers have objects under one key these are laid
over one another in turn; any other value takes the place of the one below.
-/
import FunctionWorker.Json.Basic

namespace FunctionWorker.Config

mutual

/-- A value laid over another. -/
def overlay (below : Json) : Json → Json
  | .object above =>
    match below with
    | .object members => .object (overlayMembers members above)
    | _ => .object above
  | above => above

/-- Members laid over those of an object. -/
def overlayMembers (below : List (String × Json)) : List (String × Json) → List (String × Json)
  | [] => below
  | (k, v) :: rest =>
    overlayMembers (Json.insert k (overlay ((below.lookup k).getD .null) v) below) rest

end

/-- A value under a path of keys. -/
def nest (path : List String) (v : Json) : Json :=
  path.foldr (fun k v => .object [(k, v)]) v

end FunctionWorker.Config
