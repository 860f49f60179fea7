import RouteDocs.Source.Grammar.Types

namespace RouteDocs.Source.Grammar

open Source.Parser

/-- Alternatives, with or without a bar before the first. The shape is that of a single one. -/
def alternatives (g : Grammar) : Parser PatternShape := do
  discard (marks? "|")
  let first ← g.pattern
  let others ← whileSees
    (Look.butNot (Look.marks "|") (Look.oneOf ["||", "|="])) (do marks "|"; g.pattern)
  return if others.isEmpty then first else .other

/-- One bound of a range. -/
def rangeBound (g : Grammar) : Parser Unit := do
  if ← sees Look.literal then literal
  else if ← sees (Look.any [Look.name, Look.pathWord, Look.oneOf ["::", "<"]]) then
    discard (g.qualifiedPath true)
  else
    word "const"
    discard g.attributedBlock

def endsPattern : Look := Look.any [Look.nothing, Look.oneOf ["|", "=", ",", ";", "if"],
  Look.butNot (Look.marks ":") (Look.marks "::")]

/-- The upper bound of a range, if there is one. -/
def upperBound? (g : Grammar) : Parser Bool := do
  if ← sees endsPattern then return false
  else
    g.rangeBound
    return true

/-- The rest of a range that has a lower bound. Only an open range may do without the upper one. -/
def rangeRest (g : Grammar) : Parser PatternShape := do
  let closed ← if ← marks? "..=" then pure true
    else if ← marks? "..." then pure true
    else do marks ".."; pure false
  if ← g.upperBound? then return .other
  else if closed then failure
  else return .halfOpen

/-- A range without a lower bound, or the dots that stand for what is left. -/
def rangeWithoutStart (g : Grammar) : Parser PatternShape := do
  if ← marks? "..=" then
    if ← g.upperBound? then return .halfOpen else failure
  else
    marks ".."
    if ← g.upperBound? then return .halfOpen else return .rest

/-- One field of a structure pattern. -/
def fieldPattern (g : Grammar) : Parser Unit := do
  let boxed ← word? "box"
  let byRef ← word? "ref"
  let mutable ← word? "mut"
  if boxed || byRef || mutable then discard name
  else
    let isName ← sees Look.name
    member
    if !isName || (← sees (Look.marks ":")) then
      marks ":"
      discard g.alternatives
where
  /-- The name or the number of a field. -/
  member : Parser Unit := do
    match ← ahead with
    | .literal (.integer value "") :: _ => if value < Nat.pow 2 32 then dropTokens 1 else failure
    | _ => discard name

def structurePattern (g : Grammar) : Parser Unit := inGroup .curly do
  discard (separated "," Look.nothing do
    discard g.outerAttributes
    if ← marks? ".." then require Look.nothing else g.fieldPattern)

/-- A pattern that starts with a path. -/
def pathPattern (g : Grammar) : Parser PatternShape := do
  let (qualified, p) ← g.qualifiedPath true
  if !qualified && p.plain && (← sees (Look.butNot (Look.marks "!") (Look.marks "!="))) then
    marks "!"
    discard anyGroup
    return .other
  else if ← sees (Look.group .curly) then
    g.structurePattern
    return .other
  else if ← sees (Look.group .round) then
    discard (listIn .round g.alternatives)
    return .other
  else if ← sees (Look.marks "..") then g.rangeRest
  else return .other

/-- A binding, and the pattern behind `@`. -/
def bindingPattern (g : Grammar) : Parser Unit := do
  discard (word? "ref")
  discard (word? "mut")
  if !(← word? "self") then discard name
  if ← marks? "@" then discard g.pattern

/-- The elements of a slice. A range among them has both bounds or stands in brackets. -/
def slicePattern (g : Grammar) : Parser Unit :=
  discard (listIn .square do
    if (← g.alternatives) = .halfOpen then failure)

def startsPathPattern : Look := Look.any [
  Look.both Look.name (Look.second (Look.any
    [Look.oneOf ["::", "!", ".."], Look.group .curly, Look.group .round])),
  Look.both (Look.word "self") (Look.second (Look.marks "::")),
  Look.oneOf ["::", "<", "Self", "super", "crate"]]

def patternRule (g : Grammar) : Parser PatternShape := do
  if ← sees startsPathPattern then g.pathPattern
  else if ← word? "_" then return .other
  else if ← word? "box" then
    discard g.pattern
    return .other
  else if ← sees (Look.any [Look.literal, Look.oneOf ["-", "const"]]) then
    g.rangeBound
    if ← sees (Look.marks "..") then g.rangeRest else return .other
  else if ← sees (Look.any [Look.oneOf ["ref", "mut", "self"], Look.name]) then
    g.bindingPattern
    return .other
  else if ← marks? "&" then
    discard (word? "mut")
    discard g.pattern
    return .other
  else if ← sees (Look.group .round) then
    discard (listIn .round g.alternatives)
    return .other
  else if ← sees (Look.group .square) then
    g.slicePattern
    return .other
  else if ← sees (Look.butNot (Look.marks "..") (Look.marks "...")) then g.rangeWithoutStart
  else failure

end RouteDocs.Source.Grammar
