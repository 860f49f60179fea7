import RouteDocs.Annotation

namespace RouteDocs

inductive Failure where
  /-- A file cannot be read or written. -/
  | io
  | config (file : String)
  | arrayInput (handler : String)
  | multipleModels (handler code : String)
  | missingScheme (scheme uri : String)
  | serialization (detail : String)
  deriving DecidableEq, Repr

namespace Failure

def message : Failure → String
  | .io => "IO error"
  | .config file => "invalid configuration in " ++ file
  | .arrayInput handler => "input params as array are not supported (handler " ++ handler ++ ")"
  | .multipleModels handler code =>
    "multiple models defined but not inside array (handler " ++ handler ++ ", response " ++ code ++ ")"
  | .missingScheme scheme uri =>
    "invalid security configuration, add a config entry for " ++ scheme ++ " @ " ++ uri
  | .serialization detail => "serialization error: " ++ detail

/-- Whether it is the input that has to be mended. -/
def isInputError : Failure → Bool
  | .config _ | .arrayInput _ | .multipleModels .. | .missingScheme .. => true
  | .io | .serialization _ => false

end Failure

inductive Notice where
  | unreadableSource (path : String)
  | unparsedSource (path : String)
  | noGroups (config : String)
  | skippedRoute (method uri : String) (error : Annotation.Error)
  | replacedModel (handler previous : String)
  | modelsWithoutSchema (names : List String)
  | failedGroup (uriPart : String) (failure : Failure)
  deriving DecidableEq, Repr

namespace Notice

/-- What can be mended later is a warning, a group without a document is an error. -/
def line : Notice → String
  | .unreadableSource path => "WARN Failed to read file: " ++ path ++ ": stream did not contain valid UTF-8"
  | .unparsedSource path => "WARN Failed to parse " ++ path
  | .noGroups config => "WARN No path-groups configured in " ++ config
  | .skippedRoute method uri error => "WARN Skipping " ++ method ++ " " ++ uri ++ ": " ++ error.message
  | .replacedModel handler previous =>
    "WARN " ++ handler ++ ": request body declares several models, " ++ previous ++ " is replaced"
  | .modelsWithoutSchema names =>
    "WARN Model schemas are not generated yet, components.schemas stays empty (referenced: " ++
      ", ".intercalate names ++ ")"
  | .failedGroup uriPart failure =>
    (if failure.isInputError then "ERROR Skipping " else "ERROR Failed to write ") ++
      uriPart ++ ": " ++ failure.message

end Notice

end RouteDocs
