import RouteDocs.Json.Basic
import RouteDocs.Yaml.Parser
import RouteDocs.Yaml.Scalar

namespace RouteDocs.Yaml

/-- Collections may be nested this deep, aliases followed. -/
def maxLevels : Nat := 128

/-- Decoding with the anchors of a document. The state tells how often an alias may still be followed. -/
abbrev Decoding := ReaderT (List (Nat × Node)) (StateT Nat Option)

/-- The reading of a node below which so many levels of collections may be nested. -/
abbrev Decoder (α : Type) := Nat → Node → Decoding α

namespace Decoder

/-- The node itself, or the one that it is an alias of. -/
def target (n : Node) : Decoding Node := do
  match n with
  | .alias number =>
    match ← get with
    | 0 => failure
    | left + 1 =>
      set left
      match (← read).lookup number with
      | some n => return n
      | none => failure
  | _ => return n

def text : Decoder String := fun _ n => do
  match ← target n with
  | .text value .. => return value
  | _ => failure

def nullTag : String := "tag:yaml.org,2002:null"

/-- Whether a plain text stands for nothing. -/
def meansNull (value : String) (tag : Option String) : Option Bool :=
  match tag with
  | none => some (value.isEmpty || Meaning.isNull value)
  | some t =>
    if t ≠ nullTag then some false
    else if Meaning.isNull value then some true
    else none

/-- A value that may be nothing. -/
def optional (d : Decoder α) : Decoder (Option α) := fun levels n => do
  let n ← target n
  match n with
  | .text value true tag =>
    match meansNull value tag with
    | some true => return none
    | some false => return some (← d levels n)
    | none => failure
  | _ => return some (← d levels n)

/-- Nothing counts as the empty list. -/
def list (d : Decoder α) : Decoder (List α) := fun levels n => do
  match ← target n, levels with
  | .list _ items, levels + 1 => items.mapM (d levels)
  | .list .., 0 => failure
  | n, _ => if n.isNothing then return [] else failure

/-- The entries of a mapping, whose values are still to be read one level further down. Nothing counts as
the empty mapping. -/
def entries : Decoder (List (String × Node)) := fun levels n => do
  match ← target n, levels with
  | .mapping _ es, levels + 1 => es.mapM fun (k, v) => do return (← text levels k, v)
  | .mapping .., 0 => failure
  | n, _ => if n.isNothing then return [] else failure

/-- The values of a mapping by their keys. -/
def mapping (d : Decoder α) : Decoder (List (String × α)) := fun levels n => do
  (← entries levels n).mapM fun (k, v) => do return (k, ← d (levels - 1) v)

/-- A record with the given fields: none of them occurs twice, and others are passed over. -/
def record (names : List String) : Decoder (List (String × Node)) := fun levels n => do
  let known := (← entries levels n).filter fun (k, _) => names.contains k
  if (known.map (·.1)).Nodup then return known else failure

/-- A field that has to be there. -/
def required (fields : List (String × Node)) (name : String) (levels : Nat) (d : Decoder α) :
    Decoding α :=
  match fields.lookup name with
  | some n => d (levels - 1) n
  | none => failure

/-- A field that has a value of its own where it is missing. -/
def withDefault (fields : List (String × Node)) (name : String) (levels : Nat) (a : α) (d : Decoder α) :
    Decoding α :=
  match fields.lookup name with
  | some n => d (levels - 1) n
  | none => return a

/-- Numbers that are too large to be exact are none, and those without a value are nothing. -/
def ofMeaning (value : String) : Meaning → Option Json
  | .null => some .null
  | .bool b => some (.bool b)
  | .int n => if -(Nat.pow 2 63 : Int) ≤ n && n < Nat.pow 2 64 then some (.num (.int n)) else none
  | .float x => if x.isFinite then some (.num (.float x)) else some .null
  | .text => some (.str value)

/-- A text by its tag. Tags of an application's own mean nothing here. -/
def ofTag (value tag : String) : Option Json :=
  if tag = "tag:yaml.org,2002:bool" then (Meaning.bool? value).map .bool
  else if tag = "tag:yaml.org,2002:int" then (Meaning.int? value).bind fun n => ofMeaning value (.int n)
  else if tag = "tag:yaml.org,2002:float" then (Meaning.float? value).bind fun x => ofMeaning value (.float x)
  else if tag = nullTag then if Meaning.isNull value then some .null else none
  else some (.str value)

def isLocal (tag : Option String) : Bool := tag.any fun t => t.toList.head? = some '!'

def ofText (value : String) (plain : Bool) (tag : Option String) : Option Json :=
  match tag with
  | some t => if isLocal tag then none else ofTag value t
  | none => if plain then ofMeaning value (.ofPlain value) else some (.str value)

def json : Decoder Json
  | levels, n => do
    match ← target n, levels with
    | .text value plain tag, _ =>
      match ofText value plain tag with
      | some j => return j
      | none => failure
    | .list tag items, levels + 1 =>
      if isLocal tag then failure
      return .arr (← items.mapM (json levels))
    | .mapping tag es, levels + 1 =>
      if isLocal tag then failure
      let fields ← es.mapM fun (k, v) => do return (← text levels k, ← json levels v)
      return .ofFields fields
    | _, _ => failure

end Decoder

/-- The reading of a stream. For each of its nodes a hundred aliases may be followed. -/
def decode? (d : Decoder α) (stream : String) : Option α := do
  let t ← Tree.ofText? stream
  let (a, _) ← ((d maxLevels t.root).run t.anchors).run (100 * t.root.size)
  some a

end RouteDocs.Yaml
