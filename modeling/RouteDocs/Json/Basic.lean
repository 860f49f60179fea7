namespace RouteDocs

/-- Whole numbers from `-2 ^ 63` up to `2 ^ 64 - 1` are exact, all others are rounded. -/
inductive Number where
  | int (n : Int)
  | float (x : Float)
  deriving Repr

/-- An object keeps the order of its keys. -/
inductive Json where
  | null
  | bool (b : Bool)
  | num (n : Number)
  | str (s : String)
  | arr (elements : List Json)
  | obj (fields : List (String × Json))
  deriving Repr, Inhabited

namespace Json

abbrev Fields := List (String × Json)

/-- Sets a field. A new field comes last, a field that is there keeps its place. -/
def setField (k : String) (v : Json) : Fields → Fields
  | [] => [(k, v)]
  | (l, w) :: rest => if k = l then (l, v) :: rest else (l, w) :: setField k v rest

/-- Sets fields one by one. -/
def setFields (fields others : Fields) : Fields := others.foldl (fun acc (k, v) => setField k v acc) fields

/-- An object from fields of which a later one replaces an earlier one of the same key. -/
def ofFields (fields : Fields) : Json := .obj (setFields [] fields)

def text? : Json → Option String
  | .str s => some s
  | _ => none

def fields? : Json → Option Fields
  | .obj fs => some fs
  | _ => none

/-- The value of a field of an object. -/
def get? (j : Json) (k : String) : Option Json := j.fields?.bind (·.lookup k)

def ofOption (key : String) (value : Option String) : Fields :=
  match value with
  | some s => [(key, .str s)]
  | none => []

def ofTexts (texts : List String) : Json := .arr (texts.map .str)

end Json

end RouteDocs
