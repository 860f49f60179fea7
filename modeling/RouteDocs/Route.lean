namespace RouteDocs

inductive Method where
  | get
  | post
  | put
  | delete
  | patch
  | options
  | head
  deriving DecidableEq, Repr

namespace Method

/-- In the order in which a document lists them. -/
def all : List Method := [.get, .post, .put, .delete, .patch, .options, .head]

/-- The key of the method in a document. -/
def key : Method → String
  | .get => "get"
  | .post => "post"
  | .put => "put"
  | .delete => "delete"
  | .patch => "patch"
  | .options => "options"
  | .head => "head"

def text : Method → String
  | .get => "GET"
  | .post => "POST"
  | .put => "PUT"
  | .delete => "DELETE"
  | .patch => "PATCH"
  | .options => "OPTIONS"
  | .head => "HEAD"

def ofText? (s : String) : Option Method := all.find? (·.text = s)

/-- What a guard has to allow for the method, where that has a name. -/
def scope? : Method → Option String
  | .get => some "read"
  | .post => some "write"
  | .put => some "update"
  | .delete => some "delete"
  | _ => none

end Method

structure Route where
  uri : String
  method : Method
  handler : String
  /-- The guards that a request passes, each of which is a security scheme. -/
  middleware : List String := []
  deriving DecidableEq, Repr

end RouteDocs
