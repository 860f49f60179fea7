import RouteDocs.Source.File

namespace RouteDocs

open Source

structure Import where
  visible : String
  path : String
  deriving DecidableEq, Repr

namespace Import

def joined (names : List String) : String := "::".intercalate names

/-- The import of a single name below a path. The name `self` stands for the path itself, under its last
name, and for nothing where there is no path. -/
def ofName (above : List String) (name : String) : List Import :=
  if name = "self" then
    match above.getLast? with
    | some last => [⟨last, joined above⟩]
    | none => []
  else [⟨name, joined (above ++ [name])⟩]

/-- What is known on the way through trees: the names that lead to the present one, and the imports found so far. -/
structure Collection where
  above : List String := []
  found : List Import := []
  deriving DecidableEq, Repr

namespace Collection

def enter (name : String) (c : Collection) : Collection := { c with above := c.above ++ [name] }

/-- Goes back by one name. -/
def leave (c : Collection) : Collection := { c with above := c.above.dropLast }

def add (imports : List Import) (c : Collection) : Collection := { c with found := c.found ++ imports }

end Collection

mutual

/-- Collects the imports of a tree, from left to right. A name on the way is entered for what is below it alone. -/
def collect : UseTree → StateM Collection Unit
  | .path head rest => do
    modify (·.enter head)
    collect rest
    modify (·.leave)
  | .name name => modify fun c => c.add (ofName c.above name)
  | .rename name visible => modify fun c => c.add [⟨visible, joined (c.above ++ [name])⟩]
  | .glob => pure ()
  | .group trees => collectAll trees

def collectAll : List UseTree → StateM Collection Unit
  | [] => pure ()
  | t :: ts => do
    collect t
    collectAll ts

end

mutual

/-- The imports of an item, those of the submodules in it included. -/
def ofItem : Item → List Import
  | .imports tree => ((collect tree).run {}).2.found
  | .submodule items => ofItems items
  | _ => []

def ofItems : List Item → List Import
  | [] => []
  | i :: is => ofItem i ++ ofItems is

end

/-- The imports of a source file. A file with an error in it has none. -/
def ofSourceBy (parse : Reader) (text : String) : List Import :=
  match parse text with
  | some items => ofItems items
  | none => []

abbrev ofSource : String → List Import := ofSourceBy parse

end Import

end RouteDocs
