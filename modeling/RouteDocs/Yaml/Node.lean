namespace RouteDocs.Yaml

/-- A text may be plain, and an alias goes by the number of its anchor. -/
inductive Node where
  | text (value : String) (plain : Bool) (tag : Option String)
  | list (tag : Option String) (items : List Node)
  | mapping (tag : Option String) (entries : List (Node × Node))
  | alias (anchor : Nat)
  deriving Inhabited, Repr

namespace Node

/-- What stands where nothing is written. -/
def nothing : Node := .text "" true none

/-- Whether nothing is written, which also stands for an empty collection. -/
def isNothing : Node → Bool
  | .text value plain _ => value.isEmpty && plain
  | _ => false

mutual

/-- Texts and aliases count once, collections for their start and their end. -/
def size : Node → Nat
  | .text .. => 1
  | .alias _ => 1
  | .list _ items => 2 + sizeOfItems items
  | .mapping _ entries => 2 + sizeOfEntries entries

def sizeOfItems : List Node → Nat
  | [] => 0
  | n :: ns => size n + sizeOfItems ns

def sizeOfEntries : List (Node × Node) → Nat
  | [] => 0
  | (k, v) :: es => size k + size v + sizeOfEntries es

end

end Node

/-- The document of a stream, with the values of its anchors. There may be nothing in it. -/
structure Tree where
  root : Node
  anchors : List (Nat × Node)
  deriving Repr

end RouteDocs.Yaml
