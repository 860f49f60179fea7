import RouteDocs.Text.Basic
import RouteDocs.Text.Letter
import RouteDocs.Text.Quoted

namespace RouteDocs

open Text

/-- A parameter of a handler, or one of the fields in brackets. -/
structure Field where
  type : String
  name : String
  description : String
  deriving DecidableEq, Repr, Inhabited

/-- What a handler returns or throws. -/
structure Outcome where
  type : String
  description : String
  deriving DecidableEq, Repr, Inhabited

inductive Tag where
  | param (field : Field)
  | returns (outcome : Outcome)
  | throws (outcome : Outcome)
  deriving DecidableEq, Repr

structure Annotation where
  summary : String
  tags : List Tag
  deriving DecidableEq, Repr

namespace Annotation

inductive Error where
  | empty
  | malformed (tag body : String)
  deriving DecidableEq, Repr

def Error.message : Error → String
  | .empty => "doc comment is empty"
  | .malformed tag body => "malformed @" ++ tag ++ " tag: " ++ quoted body

def params (a : Annotation) : List Field := a.tags.filterMap fun
  | .param f => some f
  | _ => none

def returns (a : Annotation) : List Outcome := a.tags.filterMap fun
  | .returns o => some o
  | _ => none

def throws (a : Annotation) : List Outcome := a.tags.filterMap fun
  | .throws o => some o
  | _ => none

def summary? (a : Annotation) : Option String := if a.summary.isEmpty then none else some a.summary

/-- A line without the stars that decorate a block comment. -/
def cleanLine (line : List Char) : List Char :=
  let line := trim (dropEnd ['*', '/'] (dropStart ['/', '*', '*'] (trim line)))
  match line with
  | '*' :: rest => trim rest
  | _ => line

def isTagName (s : List Char) : Bool :=
  s.head?.any Char.isAlpha && s.all fun c => c.isAlphanum || c == '-' || c == '_'

def isTypeName (s : List Char) : Bool :=
  (s.head?.any fun c => isAlphabetic c || c == '_' || c == '\\') &&
    s.all fun c => isAlphanumeric c || ['_', '\\', ':', '<', '>', '|'].contains c

def isVariableName (s : List Char) : Bool :=
  (s.head?.any fun c => isAlphabetic c || c == '_') && s.all fun c => isAlphanumeric c || c == '_'

/-- The name of a tag, and its text joined from all lines of the block. -/
structure Block where
  name : List Char
  body : List Char
  deriving DecidableEq, Repr

def Block.malformed (b : Block) : Error := .malformed (String.ofList b.name) (String.ofList b.body)

/-- Blank lines do not count, and one blank joins the others. -/
def Block.continue (b : Block) (line : List Char) : Block :=
  if line.isEmpty then b
  else if b.body.isEmpty then { b with body := line }
  else { b with body := b.body ++ ' ' :: line }

/-- A type, a variable and a description. Only where a variable is required, its absence is an error;
elsewhere the description takes its place. -/
def Block.param (b : Block) (strict : Bool) : Except Error Field :=
  let (type, rest) := splitWord b.body
  if !isTypeName type then .error b.malformed
  else
    match splitWord rest with
    | ('$' :: name, description) =>
      if isVariableName name then
        .ok ⟨String.ofList type, String.ofList name, String.ofList description⟩
      else .error b.malformed
    | _ =>
      if strict then .error b.malformed else .ok ⟨String.ofList type, "", String.ofList rest⟩

def Block.outcome (b : Block) : Except Error Outcome :=
  let (type, description) := splitWord b.body
  if isTypeName type then .ok ⟨String.ofList type, String.ofList description⟩
  else .error b.malformed

/-- The tag of a block. A block with any other name has none, whatever its text. -/
def Block.tag? (strict : Bool) (b : Block) : Except Error (Option Tag) :=
  if b.name = "param".toList then do return some (.param (← b.param strict))
  else if b.name = "return".toList then do return some (.returns (← b.outcome))
  else if b.name = "throws".toList then do return some (.throws (← b.outcome))
  else .ok none

/-- What the lines so far say. The blocks are listed from the last to the first. -/
structure Draft where
  summary : List (List Char) := []
  closed : Bool := false
  blocks : List Block := []
  deriving DecidableEq, Repr

/-- A blank line ends the summary, and so does a tag. -/
def Draft.add (d : Draft) (line : List Char) : Except Error Draft :=
  match line, d.blocks with
  | '@' :: rest, _ =>
    let (name, body) := splitWord rest
    let block : Block := ⟨name, body⟩
    if isTagName name then .ok { d with blocks := block :: d.blocks } else .error block.malformed
  | _, block :: earlier => .ok { d with blocks := block.continue line :: earlier }
  | [], [] => .ok { d with closed := d.closed || !d.summary.isEmpty }
  | _, [] => .ok (if d.closed then d else { d with summary := d.summary ++ [line] })

def Draft.annotation (strict : Bool) (d : Draft) : Except Error Annotation := do
  if d.summary.isEmpty && d.blocks.isEmpty then .error .empty
  else
    let tags ← d.blocks.reverse.mapM (Block.tag? strict)
    return ⟨String.ofList ([' '].intercalate d.summary), tags.filterMap id⟩

def read (strict : Bool) (text : List Char) : Except Error Annotation := do
  let d ← ((lines text).map cleanLine).foldlM Draft.add {}
  d.annotation strict

/-- A parameter needs no variable here. -/
def parse (text : String) : Except Error Annotation := read false text.toList

/-- Every parameter has a variable here. -/
def parseFields (text : List Char) : Except Error Annotation := read true text

end Annotation

end RouteDocs
