import RouteDocs.Json.Basic

namespace RouteDocs

namespace Json

mutual

/-- Replaces the values of a key at all depths. The replacement is not searched. -/
def replaceKey (v : Json) (key : String) (replacement : Json) : Json :=
  match v with
  | .obj fields => .obj (replaceInFields key replacement fields)
  | .arr elements => .arr (replaceInElements key replacement elements)
  | scalar => scalar

def replaceInFields (key : String) (replacement : Json) : List (String × Json) → List (String × Json)
  | [] => []
  | (k, v) :: rest =>
    (k, if k = key then replacement else replaceKey v key replacement) ::
      replaceInFields key replacement rest

def replaceInElements (key : String) (replacement : Json) : List Json → List Json
  | [] => []
  | v :: rest => replaceKey v key replacement :: replaceInElements key replacement rest

end

/-- Takes over a field that is missing. Of two contents the entries are joined, and the new ones count. -/
def mergeField (target : Fields) (key : String) (value : Json) : Fields :=
  match target.lookup key, value with
  | none, _ => target ++ [(key, value)]
  | some (.obj content), .obj entries =>
    if key = "content" then setField key (.obj (setFields content entries)) target else target
  | some _, _ => target

/-- Merges the fields of the second value into the first. Only objects can be merged. -/
def mergeContent (target other : Json) : Json :=
  match target, other with
  | .obj fields, .obj others => .obj (others.foldl (fun acc (k, v) => mergeField acc k v) fields)
  | _, _ => target

end Json

end RouteDocs
