import RouteDocs.Disk
import RouteDocs.Json.Decoder
import RouteDocs.Problem
import RouteDocs.Route
import RouteDocs.Yaml.Decoder

namespace RouteDocs.Manifest

def routeFields : List String := ["uri", "method", "handler", "middleware"]

/-- The name of a method, or that name as the only key of an object. -/
def jsonMethod? : Json.Reading → Option Method
  | .str s => s.bind Method.ofText?
  | .obj [(some name, .null)] => Method.ofText? name
  | _ => none

def jsonRoute? (r : Json.Reading) : Option Route := do
  let fields ← r.record? routeFields
  let uri ← (fields.lookup "uri").bind (·.text?)
  let method ← (fields.lookup "method").bind jsonMethod?
  let handler ← (fields.lookup "handler").bind (·.text?)
  let middleware ←
    match fields.lookup "middleware" with
    | some guards => guards.list? (·.text?)
    | none => some []
  some { uri, method, handler, middleware }

def ofReading? (r : Json.Reading) : Option (List Route) := r.list? jsonRoute?

def ofJson? (text : String) : Option (List Route) := (Json.Reading.ofText? text).bind ofReading?

open Yaml

/-- The name in a tag of an application's own, whose exclamation mark is left out. -/
def localName? (tag : Option String) : Option String :=
  match tag.map (·.toList) with
  | some ['!'] => some "!"
  | some ('!' :: name) => some (String.ofList name)
  | _ => none

/-- The name of a method, as a text or as the tag of nothing. -/
def yamlMethod : Decoder Method := fun _ n => do
  match ← Decoder.target n with
  | .text value plain tag =>
    let name :=
      match localName? tag with
      | some name => if plain && (value.isEmpty || Meaning.isNull value) then some name else none
      | none => some value
    match name.bind Method.ofText? with
    | some m => return m
    | none => failure
  | _ => failure

def yamlRoute : Decoder Route := fun levels n => do
  let fields ← Decoder.record routeFields levels n
  let uri ← Decoder.required fields "uri" levels .text
  let method ← Decoder.required fields "method" levels yamlMethod
  let handler ← Decoder.required fields "handler" levels .text
  let middleware ← Decoder.withDefault fields "middleware" levels [] (.list .text)
  return { uri, method, handler, middleware }

def ofYaml? (text : String) : Option (List Route) := Yaml.decode? (.list yamlRoute) text

/-- The extension of the file decides how its text is read. -/
def ofText? (path text : String) : Option (List Route) :=
  if Path.extension? path = some "json" then ofJson? text else ofYaml? text

def load (d : Disk) (path : String) : Except Problem (List Route) :=
  match d.read? path with
  | none => .error (.unreadableManifest path)
  | some text =>
    match ofText? path text with
    | some routes => .ok routes
    | none => .error (.malformedManifest path)

end RouteDocs.Manifest
