import RouteDocs.Json.Reader

namespace RouteDocs.Json.Reading

def text? : Reading → Option String
  | .str s => s
  | _ => none

/-- A value that may be null. -/
def optional? (d : Reading → Option α) : Reading → Option (Option α)
  | .null => some none
  | r => (d r).map some

def list? (d : Reading → Option α) : Reading → Option (List α)
  | .arr elements => elements.mapM d
  | _ => none

/-- A record with the given fields, by name or in their order. None of them occurs twice, and fields of
other names are passed over. -/
def record? (names : List String) : Reading → Option (List (String × Reading))
  | .arr elements => if elements.length ≤ names.length then some (names.zip elements) else none
  | .obj fields => do
    let named ← fields.mapM fun (k, v) => k.map (·, v)
    let known := named.filter fun (k, _) => names.contains k
    if (known.map (·.1)).Nodup then some known else none
  | _ => none

mutual

/-- What the text of a value says. -/
def ofJson : Json → Reading
  | .null => .null
  | .bool b => .bool b
  | .num n => .num (some n)
  | .str s => .str (some s)
  | .arr elements => .arr (ofElements elements)
  | .obj fields => .obj (ofFieldList fields)

def ofElements : List Json → List Reading
  | [] => []
  | v :: vs => ofJson v :: ofElements vs

def ofFieldList : List (String × Json) → List (Option String × Reading)
  | [] => []
  | (k, v) :: fs => (some k, ofJson v) :: ofFieldList fs

end

end RouteDocs.Json.Reading
