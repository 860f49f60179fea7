import RouteDocs.Import
import RouteDocs.Schema.TypeName
import RouteDocs.SortedMap

namespace RouteDocs

abbrev Models := SortedMap (Option String)

namespace Models

/-- Where a model is defined: the import that brings its name into view, or else the name itself if it
says so. -/
def origin (imports : List Import) (type : String) : Option String :=
  let tail := TypeName.tail type
  match imports.find? (·.visible = tail) with
  | some i => some i.path
  | none => if tail = type then none else some type

/-- Notes a reference to a model. The first known path stays. -/
def record (imports : List Import) (models : Models) (type : String) : Models :=
  models.alter (TypeName.reference type) fun
    | some (some path) => some path
    | _ => origin imports type

def recordAll (imports : List Import) (models : Models) (types : List String) : Models :=
  types.foldl (record imports) models

end Models

/-- A request for a model, with the imports in view where it is made. -/
structure Lookup where
  imports : List Import
  type : String

namespace Lookup

def reference (l : Lookup) : String := TypeName.reference l.type

/-- Refers to the model, and notes where it is defined unless that is known. -/
def refer (l : Lookup) : StateM Models String :=
  modifyGet fun models => (l.reference, models.record l.imports l.type)

end Lookup

end RouteDocs
