import RouteDocs.Text.Basic

namespace RouteDocs.TypeName

open Text

def primitives : List String := ["int", "float", "string", "boolean", "array"]

def isPrimitive (t : String) : Bool := primitives.contains t

/-- Only whole numbers have another name in a schema. -/
def jsonType (t : String) : String := if t = "int" then "integer" else t

/-- The last segment of a name whose segments are separated by `::` or a backslash. -/
def tail (t : String) : String := String.ofList (afterLast (fun c => c == ':' || c == '\\') t.toList)

def referenceRoot : String := "#/components/schemas/"

/-- Where the schema of a model belongs. -/
def reference (t : String) : String := referenceRoot ++ tail t

end RouteDocs.TypeName

namespace RouteDocs.Description

open Text

/-- Marks a field as required wherever it occurs in the description. -/
def requiredWord : List Char := "required".toList

def isRequired (d : String) : Bool := containsText requiredWord d.toList

/-- The description without the mark, unless nothing else is in it. -/
def rendered (d : String) : Option String :=
  let s := trim (without requiredWord d.toList)
  if s.isEmpty then none else some (String.ofList s)

end RouteDocs.Description
