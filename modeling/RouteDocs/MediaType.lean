import RouteDocs.Json.Basic

namespace RouteDocs

namespace MediaType

def urlEncoded : String := "application/x-www-form-urlencoded"

def json : String := "application/json"

end MediaType

namespace Template

/-- The body of a form, whose schema is still to be filled in. -/
def urlEncoded : Json :=
  .obj [("required", .bool true),
    ("content", .obj [(MediaType.urlEncoded,
      .obj [("schema", .obj [("type", .str "object"), ("properties", .obj [])])])])]

/-- A body that refers to a model, whose reference is still to be filled in. -/
def jsonReference : Json :=
  .obj [("content", .obj [(MediaType.json, .obj [("schema", .obj [("$ref", .str "")])])])]

end Template

end RouteDocs
