import RouteDocs.Expansion
import RouteDocs.Journal
import RouteDocs.Json.Edit
import RouteDocs.MediaType
import RouteDocs.Schema.Fragment

namespace RouteDocs

structure Parameter where
  name : String
  location : String
  required : Bool
  schema : Fragment
  description : Option String
  deriving Repr

def Parameter.toJson (p : Parameter) : Json :=
  .obj ([("name", .str p.name), ("in", .str p.location), ("required", .bool p.required),
    ("schema", p.schema.toJson)] ++ Json.ofOption "description" p.description)

inductive Input where
  | query (parameters : List Parameter)
  | body (content : Json)

namespace Input

def isPrimitive (f : Field) : Bool := TypeName.isPrimitive f.type

/-- The expansions of the parameter tags that have one. -/
def expansions (a : Annotation) : List Expansion :=
  a.params.filterMap fun p => expand p.description

/-- The fields of all parameter tags. None of them may be an array. -/
def fields? (a : Annotation) : Option (List Field) :=
  if (expansions a).any (·.isArray) then none else some ((expansions a).flatMap (·.fields))

/-- A query parameter is required if its description goes on behind the mark. -/
def queryParameter (f : Field) : Parameter where
  name := f.name
  location := "query"
  required := Text.containsText "required ".toList f.description.toList
  schema := .primitive (TypeName.jsonType f.type) none
  description := Description.rendered f.description

/-- The schema of the fields of primitive kinds. -/
def formSchema (fields : List Field) : Fragment :=
  .object (fields.map fun f => (f.name, .property f))
    ((fields.filter fun f => Description.isRequired f.description).map (·.name))

def form (fields : List Field) : Json := Template.urlEncoded.replaceKey "schema" (formSchema fields).toJson

def modelBody (type : String) : Json :=
  Template.jsonReference.replaceKey "$ref" (.str (TypeName.reference type))

/-- A form for the fields of primitive kinds, and the last model of the others. -/
def requestBody (fields : List Field) : Option Json :=
  let (primitives, models) := fields.partition isPrimitive
  let form? := if primitives.isEmpty then none else some (form primitives)
  match models.getLast?, form? with
  | none, form? => form?
  | some m, none => some (modelBody m.type)
  | some m, some content => some (content.mergeContent (modelBody m.type))

def ofAnnotation (method : Method) (handler : String) (a : Annotation) : Except Failure (Option Input) :=
  match fields? a with
  | none => .error (.arrayInput handler)
  | some fields =>
    if fields.isEmpty then .ok none
    else if method = .get then .ok (some (.query (fields.map queryParameter)))
    else .ok ((requestBody fields).map .body)

/-- The models that the request body is looked up for, in order. -/
def models (method : Method) (a : Annotation) : List String :=
  if method = .get then []
  else (((fields? a).getD []).filter fun f => !isPrimitive f).map (·.type)

/-- A body has room for one model, so each further one replaces another. -/
def notices (method : Method) (handler : String) (a : Annotation) : List Notice :=
  (models method a).dropLast.map fun m => .replacedModel handler (TypeName.reference m)

/-- Adds the fields of a parameter tag, unless they would be an array. -/
def addTag (handler : String) (fields : List Field) (p : Field) : CompileM (List Field) :=
  match expand p.description with
  | none => return fields
  | some e => if e.isArray then throw (.arrayInput handler) else return fields ++ e.fields

/-- What the fields of a request body have come to so far. -/
structure Parts where
  properties : List (String × Fragment) := []
  required : List String := []
  /-- The reference of the last model. -/
  model : Option String := none

def Parts.addProperty (ps : Parts) (f : Field) : Parts :=
  { ps with
    properties := ps.properties ++ [(f.name, .property f)]
    required := if Description.isRequired f.description then ps.required ++ [f.name] else ps.required }

/-- Adds a field. A model is asked for, and takes the place of an earlier one. -/
def addField (imports : List Import) (handler : String) (ps : Parts) (f : Field) : CompileM Parts :=
  if isPrimitive f then return ps.addProperty f
  else do
    let reference ← CompileM.refer ⟨imports, f.type⟩
    ps.model.forM fun previous => CompileM.say (.replacedModel handler previous)
    return { ps with model := some reference }

def Parts.content? (ps : Parts) : Option Json :=
  let form? :=
    if ps.properties.isEmpty then none
    else some (Template.urlEncoded.replaceKey "schema" (Fragment.object ps.properties ps.required).toJson)
  let model? := ps.model.map fun reference => Template.jsonReference.replaceKey "$ref" (.str reference)
  match form?, model? with
  | some form, some model => some (form.mergeContent model)
  | form?, model? => form?.or model?

/-- Builds the input of a route, and asks for its models on the way. -/
def build (imports : List Import) (method : Method) (handler : String) (a : Annotation) :
    CompileM (Option Input) := do
  let fields ← a.params.foldlM (addTag handler) []
  if fields.isEmpty then return none
  else if method = .get then return some (.query (fields.map queryParameter))
  else
    let ps ← fields.foldlM (addField imports handler) {}
    return ps.content?.map .body

end Input

end RouteDocs
