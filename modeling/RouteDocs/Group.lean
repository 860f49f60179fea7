import RouteDocs.Json.Basic
import RouteDocs.SortedMap

namespace RouteDocs

structure Contact where
  name : Option String := none
  url : Option String := none
  email : Option String := none
  deriving DecidableEq, Repr

def Contact.toJson (c : Contact) : Json :=
  .obj (Json.ofOption "name" c.name ++ Json.ofOption "url" c.url ++ Json.ofOption "email" c.email)

structure Server where
  url : String
  description : Option String := none
  deriving DecidableEq, Repr

def Server.toJson (s : Server) : Json :=
  .obj (("url", .str s.url) :: Json.ofOption "description" s.description)

structure GroupTag where
  name : String
  description : Option String := none
  deriving DecidableEq, Repr

def GroupTag.toJson (t : GroupTag) : Json :=
  .obj (("name", .str t.name) :: Json.ofOption "description" t.description)

def Group.defaultMarker : String := "Json"

structure Group where
  version : String
  title : String
  contact : Contact := {}
  servers : List Server := []
  tags : List GroupTag := []
  /-- The definitions of security schemes. -/
  security : SortedMap Json := ∅
  /-- The path of the document below the base directory. -/
  output : String
  /-- The type that marks a response as JSON. -/
  jsonMarker : String := Group.defaultMarker
  deriving Repr

def Group.toJson (g : Group) : Json :=
  .obj [("api_version", .str g.version), ("title", .str g.title), ("contact", g.contact.toJson),
    ("servers", .arr (g.servers.map Server.toJson)), ("tags", .arr (g.tags.map GroupTag.toJson)),
    ("security", .obj g.security.entries), ("output", .str g.output),
    ("json_response_type", .str g.jsonMarker)]

/-- Groups by the part of a URI that their routes have in common. -/
abbrev Config := SortedMap Group

def Config.toJson (c : Config) : Json := .obj (c.entries.map fun (uriPart, g) => (uriPart, g.toJson))

end RouteDocs
