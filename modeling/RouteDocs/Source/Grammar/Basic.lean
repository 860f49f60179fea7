import RouteDocs.Source.Item
import RouteDocs.Source.Parser

namespace RouteDocs.Source

inductive TypeShape where
  /-- The last name of a path, whether the path starts at a type in angle brackets, and whether it is a
  single segment, without the arguments of a function type. -/
  | path (last : String) (qualified solo : Bool)
  | parenthesised
  /-- A trait object without `dyn`, made of a single bound. -/
  | bound
  | other
  deriving DecidableEq

inductive ExprShape where
  /-- A block, a branch or a loop: a statement or match arm without a mark behind it. -/
  | block
  | range
  | comparison
  /-- A macro call in curly brackets. -/
  | braced
  | other
  deriving DecidableEq

inductive PatternShape where
  | rest
  /-- A range without one of its bounds. -/
  | halfOpen
  | other
  deriving DecidableEq

/-- From the loosest to the tightest. -/
inductive Precedence where
  | none
  | assign
  | range
  | or
  | and
  | binding
  | compare
  | bitOr
  | bitXor
  | bitAnd
  | shift
  | sum
  | product
  | cast
  deriving DecidableEq

def Precedence.rank : Precedence → Nat
  | .none => 0
  | .assign => 1
  | .range => 2
  | .or => 3
  | .and => 4
  | .binding => 5
  | .compare => 6
  | .bitOr => 7
  | .bitXor => 8
  | .bitAnd => 9
  | .shift => 10
  | .sum => 11
  | .product => 12
  | .cast => 13

structure Grammar where
  /-- A type; the argument allows several bounds joined by plus signs. -/
  type : Bool → Parser TypeShape
  /-- An expression; the argument allows a structure literal at its start. -/
  expr : Bool → Parser ExprShape
  /-- An operand with the operators before and behind it. -/
  operand : Bool → Parser ExprShape
  /-- Continues an expression by operators that bind at least as tightly. -/
  operators : Bool → Precedence → ExprShape → Parser ExprShape
  /-- The expression of a statement or a match arm: a block at its start ends it, unless a dot or a
  question mark follows. -/
  leading : Parser ExprShape
  /-- A pattern without alternatives at its top. -/
  pattern : Parser PatternShape
  bound : Bool → Parser Unit
  /-- The statements up to the end of the tokens. -/
  statements : Parser Unit
  item : Parser Item
  /-- A tree of imports, where the argument allows an absolute path. The result is `none` if there is an
  absolute path within the tree. -/
  useTree : Bool → Parser (Option UseTree)

/-- The grammar that accepts nothing. -/
def Grammar.empty : Grammar where
  type _ := failure
  expr _ := failure
  operand _ := failure
  operators _ _ _ := failure
  leading := failure
  pattern := failure
  bound _ := failure
  statements := failure
  item := failure
  useTree _ := failure

namespace Grammar

open Source.Parser

/-- The plain path that names an attribute, a macro or a module. The result holds its names, and whether
it starts at the root. -/
def plainPath : Parser (Bool × List String) := do
  let rooted ← marks? "::"
  let first ← segment
  let rest ← whileSees (Look.marks "::") (do marks "::"; segment)
  return (rooted, first :: rest)
where
  segment : Parser String := do
    require (Look.any [Look.name, Look.pathWord])
    anyWord

/-- The content of an attribute. The result is the text it documents its bearer with, if it does. -/
def attributeContent (g : Grammar) : Parser (Option String) := do
  let (rooted, names) ←
    if ← word? "unsafe" then pure (false, []) else plainPath
  if ← sees (Look.any [Look.group .round, Look.group .square, Look.group .curly]) then
    discard anyGroup
    return none
  else if ← marks? "=" then
    match ← ahead with
    | [.literal (.text value)] =>
      dropTokens 1
      return if !rooted && names == ["doc"] then some value else none
    | ts =>
      refuse (Look.both (Look.marks "#") (Look.second (Look.group .square)))
      discard (g.expr true)
      if ts.isEmpty then failure else return none
  else return none

/-- An attribute of what follows. -/
def outerAttribute (g : Grammar) : Parser (Option String) := do
  marks "#"
  inGroup .square g.attributeContent

/-- The attributes of what follows; the result holds the documentation texts. -/
def outerAttributes (g : Grammar) : Parser (List String) :=
  return (← whileSees (Look.marks "#") g.outerAttribute).filterMap id

/-- The attributes of what contains them. -/
def innerAttributes (g : Grammar) : Parser (List String) :=
  return (← whileSees (Look.both (Look.marks "#") (Look.second (Look.marks "!")))
    (do marks "#"; marks "!"; inGroup .square g.attributeContent)).filterMap id

/-- A block that takes no attributes of its own. -/
def block (g : Grammar) : Parser Unit := inGroup .curly g.statements

/-- A block that may start with attributes, whose documentation texts are the result. -/
def attributedBlock (g : Grammar) : Parser (List String) := inGroup .curly do
  let docs ← g.innerAttributes
  g.statements
  return docs

/-- Takes a visibility. The result is whether there was one. -/
def visibility : Parser Bool := do
  if ← word? "pub" then
    scope <|> pure ()
    return true
  else return false
where
  /-- Round brackets behind `pub` belong to it only if they hold a scope. -/
  scope : Parser Unit := inGroup .round do
    if ← word? "in" then discard plainPath
    else
      require (Look.oneOf ["crate", "self", "super"])
      dropTokens 1

/-- The name and bracket of a macro call. -/
def macroCall : Parser Bracket := do
  discard plainPath
  marks "!"
  anyGroup

end Grammar

end RouteDocs.Source
