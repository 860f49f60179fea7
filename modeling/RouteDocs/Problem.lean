import RouteDocs.Failure

namespace RouteDocs

inductive Problem where
  | missingConfig (path : String)
  | missingManifest (path : String)
  | notDirectory (path : String)
  | unreadableManifest (path : String)
  | malformedManifest (path : String)
  | failedGroups (uriParts : List String)
  | failure (f : Failure)
  deriving DecidableEq, Repr

def Problem.message : Problem → String
  | .missingConfig path => "Config file does not exist: " ++ path
  | .missingManifest path => "Route manifest does not exist: " ++ path
  | .notDirectory path => "Source path is not a directory: " ++ path
  | .unreadableManifest path => "Failed to read route manifest: " ++ path
  | .malformedManifest path => "Failed to parse route manifest: " ++ path
  | .failedGroups uriParts => "Failed to compile path-groups: " ++ ", ".intercalate uriParts
  | .failure f => f.message

end RouteDocs
