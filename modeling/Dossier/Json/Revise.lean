import Dossier.Json.Value

/-!
# Revising JSON values

`Json.revise` goes through a value and replaces or leaves out its leaves: whatever is neither an
array nor an object.  A leaf is judged together with the name of the nearest field around it.
-/

namespace Dossier.Json

mutual

/-- The value revised, unless it is left out. -/
def revise (f : String → Json → Option Json) (name : String) : Json → Option Json
  | arr items => some (arr (reviseItems f name items))
  | obj fields => some (obj (reviseFields f fields))
  | null => f name null
  | bool b => f name (bool b)
  | num n => f name (num n)
  | str s => f name (str s)

/-- The items of an array revised. -/
def reviseItems (f : String → Json → Option Json) (name : String) : List Json → List Json
  | [] => []
  | item :: rest => (revise f name item).toList ++ reviseItems f name rest

/-- The fields of an object revised. -/
def reviseFields (f : String → Json → Option Json) : List (String × Json) → List (String × Json)
  | [] => []
  | (name, value) :: rest =>
    ((revise f name value).toList.map fun v => (name, v)) ++ reviseFields f rest

end

end Dossier.Json
