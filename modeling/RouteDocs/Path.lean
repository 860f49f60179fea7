import RouteDocs.Text.Basic

namespace RouteDocs.Path

open Text

/-- A part of a path. The directory itself is a part only at the start. -/
inductive Part where
  | root
  | here
  | above
  | name (s : String)
  deriving DecidableEq, Repr

def isAbsolute (path : String) : Bool := path.toList.head? = some '/'

def partOf (s : List Char) : Option Part :=
  if s.isEmpty || s = ['.'] then none
  else if s = ['.', '.'] then some .above
  else some (.name (String.ofList s))

/-- Parts without repeated slashes and without dots that change nothing. -/
def parts (path : String) : List Part :=
  let ps := pieces '/' path.toList
  let start : List Part :=
    if isAbsolute path then [.root] else if ps.head? = some ['.'] then [.here] else []
  start ++ ps.filterMap partOf

def Part.text : Part → String
  | .root => ""
  | .here => "."
  | .above => ".."
  | .name s => s

/-- One text for all texts of the same parts. -/
def normal (path : String) : String :=
  match parts path with
  | [.root] => "/"
  | ps => "/".intercalate (ps.map Part.text)

/-- A path below another one. An absolute path stands for itself. -/
def join (base path : String) : String :=
  if isAbsolute path then path
  else if base.isEmpty || base.toList.getLast? = some '/' then base ++ path
  else base ++ "/" ++ path

/-- What follows the last dot of a name, unless the name starts with that dot. -/
def extensionOf? (name : List Char) : Option String :=
  let ending := afterLast (· = '.') name
  if ending.length + 1 < name.length then some (String.ofList ending) else none

/-- The extension of the file at the end of a path. -/
def extension? (path : String) : Option String :=
  match (parts path).getLast? with
  | some (.name s) => extensionOf? s.toList
  | _ => none

end RouteDocs.Path
