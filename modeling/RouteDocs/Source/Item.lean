namespace RouteDocs.Source

/-- The tree behind `use`. -/
inductive UseTree where
  | path (head : String) (rest : UseTree)
  | name (name : String)
  | rename (name visible : String)
  | glob
  | group (trees : List UseTree)
  deriving Repr

/-- A function with a body, and the texts of its documentation attributes in order. -/
structure Function where
  name : String
  docs : List String := []
  deriving DecidableEq, Repr

/-- One line per documentation attribute. The blank after the comment mark does not count. -/
def Function.doc (f : Function) : Option String :=
  if f.docs.isEmpty then none
  else some ("\n".intercalate (f.docs.map fun line => String.ofList (unspaced line.toList)))
where
  unspaced : List Char → List Char
    | ' ' :: line => line
    | line => line

inductive Item where
  | function (f : Function)
  /-- The methods of an implementation, with the last name in the path of its type. -/
  | methods (owner : String) (fs : List Function)
  | submodule (items : List Item)
  | imports (tree : UseTree)
  | other
  deriving Repr

/-- A reading of the text of a file, which fails if there is an error in it. -/
abbrev Reader := String → Option (List Item)

end RouteDocs.Source
