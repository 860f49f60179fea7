import RouteDocs.Expansion
import RouteDocs.Journal
import RouteDocs.MediaType
import RouteDocs.Schema.Fragment
import RouteDocs.StatusCode

namespace RouteDocs

structure Response where
  description : String
  /-- A schema for each media type. -/
  content : Option (SortedMap Fragment) := none
  deriving Repr

abbrev Responses := SortedMap Response

def Response.toJson (r : Response) : Json :=
  .obj (("description", .str r.description) ::
    match r.content with
    | some media =>
      [("content", .obj (media.entries.map fun (type, f) => (type, .obj [("schema", f.toJson)])))]
    | none => [])

namespace Responses

/-- The marker stands for a response in JSON, also with a type argument behind it. -/
def isJson (type marker : String) : Bool :=
  TypeName.tail (String.ofList (type.toList.takeWhile (· ≠ '<'))) == marker

/-- A return tag without its status code. -/
structure Return where
  code : String
  text : String
  expansion : Option Expansion
  deriving DecidableEq, Repr

def Return.ofOutcome (o : Outcome) : Return :=
  let (code, text) :=
    StatusCode.extract (String.ofList (Text.trim o.description.toList)) StatusCode.forReturn
  ⟨code, text, expand text⟩

namespace Return

def fields (r : Return) : List Field := (r.expansion.map (·.fields)).getD []

def isArray (r : Return) : Bool := r.expansion.any (·.isArray)

/-- The types of the fields that are models. -/
def models (r : Return) : List String := (r.fields.map (·.type)).filter fun t => !TypeName.isPrimitive t

def properties (r : Return) : List (String × Fragment) :=
  (r.fields.filter fun f => TypeName.isPrimitive f.type).map fun f => (f.name, .property f)

def description (r : Return) : String := (r.expansion.map (·.summary)).getD r.text

/-- Several models are possible only as the elements of an array. -/
def isAmbiguous (r : Return) : Bool := 1 < r.models.length && !r.isArray

/-- Models come before fields of primitive kinds. -/
def schema (r : Return) : Fragment :=
  match r.models with
  | [] =>
    if r.properties.isEmpty then .empty
    else
      let object := Fragment.object r.properties []
      if r.isArray then .arrayOf object else object
  | [model] => .modelRef (TypeName.reference model)
  | models => .anyOf (models.map fun m => .modelRef (TypeName.reference m))

def response (r : Return) (json : Bool) : Response where
  description := r.description
  content := if json then some (SortedMap.empty.insert MediaType.json r.schema) else none

end Return

/-- The response of a return tag replaces an earlier one of the same code. -/
def addReturn (handler marker : String) (responses : Responses) (o : Outcome) : Except Failure Responses :=
  let r := Return.ofOutcome o
  if r.isAmbiguous then .error (.multipleModels handler r.code)
  else .ok (responses.insert r.code (r.response (isJson o.type marker)))

/-- A throws tag describes a response anew and leaves its content. -/
def addThrows (responses : Responses) (o : Outcome) : Responses :=
  let (code, text) :=
    StatusCode.extract (String.ofList (Text.trim o.description.toList)) StatusCode.forThrows
  responses.alter code fun r => { r.getD ⟨text, none⟩ with description := text }

def ofAnnotation (handler marker : String) (a : Annotation) : Except Failure Responses := do
  let responses ← a.returns.foldlM (addReturn handler marker) ∅
  return a.throws.foldl addThrows responses

/-- The elements up to the first with a property, that one included. -/
def upToFirst (p : α → Bool) : List α → List α
  | [] => []
  | a :: as => if p a then [a] else a :: upToFirst p as

/-- The models that are looked up, in order. Nothing is looked up behind an ambiguous tag. -/
def models (a : Annotation) : List String :=
  (upToFirst Return.isAmbiguous (a.returns.map Return.ofOutcome)).flatMap Return.models

/-- What the fields of a return tag have come to so far. -/
structure Parts where
  models : List Fragment := []
  properties : List (String × Fragment) := []

def Parts.schema (ps : Parts) (isArray : Bool) : Fragment :=
  match ps.models with
  | [] =>
    if ps.properties.isEmpty then .empty
    else
      let object := Fragment.object ps.properties []
      if isArray then .arrayOf object else object
  | [model] => model
  | models => .anyOf models

def addField (imports : List Import) (ps : Parts) (f : Field) : CompileM Parts :=
  if TypeName.isPrimitive f.type then
    return { ps with properties := ps.properties ++ [(f.name, .property f)] }
  else do
    let reference ← CompileM.refer ⟨imports, f.type⟩
    return { ps with models := ps.models ++ [.modelRef reference] }

/-- Adds the response of a return tag. Several models are possible only as the elements of an array. -/
def addTag (imports : List Import) (handler marker : String) (responses : Responses) (o : Outcome) :
    CompileM Responses := do
  let r := Return.ofOutcome o
  let ps ← r.fields.foldlM (addField imports) {}
  if 1 < ps.models.length && !r.isArray then throw (.multipleModels handler r.code)
  else
    let content :=
      if isJson o.type marker then some (SortedMap.empty.insert MediaType.json (ps.schema r.isArray)) else none
    return responses.insert r.code ⟨r.description, content⟩

/-- Builds the responses of a route, and asks for their models on the way. -/
def build (imports : List Import) (handler marker : String) (a : Annotation) : CompileM Responses := do
  let responses ← a.returns.foldlM (addTag imports handler marker) ∅
  return a.throws.foldl addThrows responses

end Responses

end RouteDocs
