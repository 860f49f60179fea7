import RouteDocs.Route
import RouteDocs.Schema.Models

namespace RouteDocs

/-- A security scheme with the scopes it has to grant. All schemes of one requirement are needed at once. -/
abbrev Requirement := SortedMap (List String)

structure Context where
  models : Models := ∅
  /-- A scheme for each guarded URI. -/
  guards : SortedMap String := ∅
  /-- A URI for each scheme in use. -/
  schemes : SortedMap String := ∅
  deriving Repr

namespace Route

def scopes (r : Route) : List String := r.method.scope?.toList

/-- One requirement for each guard. -/
def requirements (r : Route) : List Requirement :=
  r.middleware.map fun scheme => SortedMap.empty.insert scheme r.scopes

end Route

namespace Context

/-- Notes a guard: a scheme keeps the first URI that uses it, a URI the last scheme that guards it. -/
def guard (uri : String) (c : Context) (scheme : String) : Context :=
  { c with schemes := c.schemes.insertIfNew scheme uri, guards := c.guards.insert uri scheme }

def addGuards (c : Context) (r : Route) : Context := r.middleware.foldl (guard r.uri) c

def addModels (imports : List Import) (c : Context) (types : List String) : Context :=
  { c with models := Models.recordAll imports c.models types }

end Context

namespace Route

/-- Takes up one guard of a route: the context notes it, and the route requires it. -/
def takeUp (r : Route) (scheme : String) : StateM Context Requirement :=
  modifyGet fun c => (SortedMap.empty.insert scheme r.scopes, c.guard r.uri scheme)

/-- Takes up the guards of a route in the order in which they are registered. -/
def resolve (r : Route) : StateM Context (List Requirement) := r.middleware.mapM r.takeUp

end Route

end RouteDocs
