import RouteDocs.Group
import RouteDocs.Input
import RouteDocs.Responses

namespace RouteDocs

structure Operation where
  id : String
  description : Option String := none
  parameters : Option (List Parameter) := none
  body : Option Json := none
  responses : Responses := ∅
  security : List Requirement := []

/-- An operation with its input. It is described only together with its input. -/
def Operation.withInput (o : Operation) (summary : Option String) : Option Input → Operation
  | none => o
  | some (.query parameters) => { o with description := summary, parameters := some parameters }
  | some (.body content) => { o with description := summary, body := some content }

def Operation.toJson (o : Operation) : Json :=
  .obj ([("operationId", .str o.id)] ++ Json.ofOption "description" o.description ++
    (match o.parameters with
      | some ps => [("parameters", .arr (ps.map Parameter.toJson))]
      | none => []) ++
    (match o.body with
      | some body => [("requestBody", body)]
      | none => []) ++
    [("responses", .obj (o.responses.entries.map fun (code, r) => (code, r.toJson))),
      ("security", .arr (o.security.map requirementJson))])
where
  requirementJson (r : Requirement) : Json :=
    .obj (r.entries.map fun (scheme, scopes) => (scheme, .ofTexts scopes))

/-- The operations of one URI. -/
structure PathItem where
  operation : Method → Option Operation := fun _ => none

namespace PathItem

/-- A later operation replaces an earlier one of the same method. -/
def set (p : PathItem) (m : Method) (o : Operation) : PathItem :=
  ⟨fun n => if n = m then some o else p.operation n⟩

def toJson (p : PathItem) : Json :=
  .obj (Method.all.filterMap fun m => (p.operation m).map fun o => (m.key, o.toJson))

end PathItem

/-- Path items by URI. -/
abbrev Paths := SortedMap PathItem

def Paths.add (paths : Paths) (uri : String) (m : Method) (o : Operation) : Paths :=
  paths.alter uri fun p => (p.getD {}).set m o

structure Document where
  openapi : String := "3.0.0"
  title : String
  contact : Contact
  version : String
  servers : List Server
  tags : List GroupTag
  paths : Paths
  /-- The definitions of the schemes in use. -/
  securitySchemes : Option (SortedMap Json)

namespace Document

def toJson (d : Document) : Json :=
  .obj ([("openapi", .str d.openapi),
    ("info", .obj [("title", .str d.title), ("contact", d.contact.toJson), ("version", .str d.version)]),
    ("servers", .arr (d.servers.map Server.toJson)), ("tags", .arr (d.tags.map GroupTag.toJson)),
    ("paths", .obj (d.paths.entries.map fun (uri, p) => (uri, p.toJson)))] ++
    match d.securitySchemes with
    | some schemes => [("components", .obj [("securitySchemes", .obj schemes.entries)])]
    | none => [])

/-- The schemes in use, each with a URI that needs it: those that guard a URI first. -/
def neededSchemes (c : Context) : List (String × String) :=
  (c.guards.entries.map fun (uri, scheme) => (scheme, uri)) ++ c.schemes.entries

/-- Takes over the definition of a scheme. -/
def define (security : SortedMap Json) (defined : SortedMap Json) (needed : String × String) :
    Except Failure (SortedMap Json) :=
  match security.get? needed.1 with
  | some definition => .ok (defined.insert needed.1 definition)
  | none => .error (.missingScheme needed.1 needed.2)

/-- A document whose operations refer to what is in the context. Every scheme needs a definition. -/
def build (g : Group) (paths : Paths) (c : Context) : Except Failure Document := do
  let schemes ← (neededSchemes c).foldlM (define g.security) ∅
  return {
    title := g.title
    contact := g.contact
    version := g.version
    servers := g.servers
    tags := g.tags
    paths
    securitySchemes := if schemes.isEmpty then none else some schemes }

/-- The name of a model, which is what is left of its reference. -/
def modelName (reference : String) : String :=
  String.ofList (go reference.length reference.toList)
where
  go : Nat → List Char → List Char
    | 0, s => s
    | n + 1, s =>
      match TypeName.referenceRoot.toList.isPrefixOf? s with
      | some rest => go n rest
      | none => s

/-- Models have no schema of their own yet. -/
def notices (c : Context) : List Notice :=
  if c.models.isEmpty then [] else [.modelsWithoutSchema (c.models.keys.map modelName)]

end Document

end RouteDocs
