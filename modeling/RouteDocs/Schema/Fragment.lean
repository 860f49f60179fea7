import RouteDocs.Annotation
import RouteDocs.Json.Basic
import RouteDocs.Schema.TypeName

namespace RouteDocs

inductive Fragment where
  | primitive (jsonType : String) (description : Option String)
  | modelRef (reference : String)
  | object (properties : List (String × Fragment)) (required : List String)
  | arrayOf (items : Fragment)
  | anyOf (items : List Fragment)
  | empty
  deriving Repr, Inhabited

namespace Fragment

/-- The schema of a field of a primitive kind. -/
def property (f : Field) : Fragment :=
  .primitive (TypeName.jsonType f.type) (Description.rendered f.description)

mutual

/-- A property that is declared again keeps its place and takes the later schema. -/
def toJson : Fragment → Json
  | .primitive jsonType description =>
    .obj (("type", .str jsonType) :: Json.ofOption "description" description)
  | .modelRef reference => .obj [("$ref", .str reference)]
  | .object properties required =>
    .obj ([("type", .str "object"), ("properties", .ofFields (propertiesToJson properties))] ++
      if required.isEmpty then [] else [("required", .ofTexts required)])
  | .arrayOf items => .obj [("type", .str "array"), ("items", toJson items)]
  | .anyOf items => .obj [("anyOf", .arr (itemsToJson items))]
  | .empty => .obj []

def propertiesToJson : List (String × Fragment) → List (String × Json)
  | [] => []
  | (name, f) :: rest => (name, toJson f) :: propertiesToJson rest

def itemsToJson : List Fragment → List Json
  | [] => []
  | f :: rest => toJson f :: itemsToJson rest

end

end Fragment

end RouteDocs
