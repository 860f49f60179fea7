import RouteDocs.Disk
import RouteDocs.Failure
import RouteDocs.Group
import RouteDocs.Yaml.Decoder

namespace RouteDocs

open Yaml

def Contact.decoder : Decoder Contact := fun levels n => do
  let fields ← Decoder.record ["name", "url", "email"] levels n
  let part := fun name => Decoder.withDefault fields name levels none (.optional .text)
  return { name := ← part "name", url := ← part "url", email := ← part "email" }

def Server.decoder : Decoder Server := fun levels n => do
  let fields ← Decoder.record ["url", "description"] levels n
  return {
    url := ← Decoder.required fields "url" levels .text
    description := ← Decoder.withDefault fields "description" levels none (.optional .text) }

def GroupTag.decoder : Decoder GroupTag := fun levels n => do
  let fields ← Decoder.record ["name", "description"] levels n
  return {
    name := ← Decoder.required fields "name" levels .text
    description := ← Decoder.withDefault fields "description" levels none (.optional .text) }

namespace Group

def fieldNames : List String :=
  ["api_version", "title", "contact", "servers", "tags", "security", "output", "json_response_type"]

def decoder : Decoder Group := fun levels n => do
  let fields ← Decoder.record fieldNames levels n
  return {
    version := ← Decoder.required fields "api_version" levels .text
    title := ← Decoder.required fields "title" levels .text
    contact := ← Decoder.withDefault fields "contact" levels {} Contact.decoder
    servers := ← Decoder.withDefault fields "servers" levels [] (.list Server.decoder)
    tags := ← Decoder.withDefault fields "tags" levels [] (.list GroupTag.decoder)
    security := .ofList (← Decoder.withDefault fields "security" levels [] (.mapping .json))
    output := ← Decoder.required fields "output" levels .text
    jsonMarker := ← Decoder.withDefault fields "json_response_type" levels defaultMarker .text }

end Group

namespace Config

/-- Of two groups of one name the later one counts. -/
def ofYaml? (text : String) : Option Config :=
  (Yaml.decode? (.mapping Group.decoder) text).map SortedMap.ofList

/-- The configuration in a text, which comes from the given file. -/
def ofText (file text : String) : Except Failure Config :=
  match ofYaml? text with
  | some config => .ok config
  | none => .error (.config file)

def load (d : Disk) (path : String) : Except Failure Config :=
  match d.read? path with
  | some text => ofText path text
  | none => .error .io

end Config

end RouteDocs
