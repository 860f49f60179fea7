import RouteDocs.Source.Grammar.Basic

namespace RouteDocs.Source.Grammar

open Source.Parser

/-- A constant as a generic argument. -/
def constArgument (g : Grammar) : Parser Unit := do
  if ← sees Look.literal then literal
  else if ← sees Look.name then dropTokens 1
  else
    discard g.attributedBlock

/-- One argument in angle brackets: a lifetime, a constant, a type, or a condition on an associated type. -/
def genericArgument (g : Grammar) : Parser Unit := do
  if ← sees (Look.butNot Look.lifetime (Look.second (Look.marks "+"))) then lifetime
  else if ← sees (Look.any [Look.literal, Look.group .curly]) then g.constArgument
  else
    match ← g.type true with
    | .path _ false true =>
      if ← marks? "=" then
        if ← sees (Look.any [Look.literal, Look.group .curly]) then g.constArgument
        else discard (g.type true)
      else if ← marks? ":" then
        discard (separated "+" (Look.oneOf [",", ">"]) (g.bound true))
    | _ => pure ()

def genericArguments (g : Grammar) : Parser Unit := do
  marks "<"
  discard (separated "," (Look.marks ">") g.genericArgument)
  marks ">"

/-- One segment of a path with its arguments. In a type they may follow the name directly, in an
expression only behind a double colon. The result is the name and whether it has arguments. -/
def segment (g : Grammar) (inExpr : Bool) : Parser (String × Bool) := do
  if ← sees (Look.oneOf ["super", "self", "crate", "try"]) then return (← anyWord, false)
  else
    let name ← if ← sees (Look.word "Self") then anyWord else name
    if ← sees (Look.both (Look.marks "::") (Look.third (Look.marks "<"))) then
      marks "::"
      g.genericArguments
      return (name, true)
    else if ← sees (Look.butNot (Look.marks "<") (Look.marks "<=")) then
      if inExpr then return (name, false)
      else
        g.genericArguments
        return (name, true)
    else return (name, false)

/-- What is known of a path: its last name, whether that has arguments, the number of its segments, and
whether no segment has arguments. -/
structure PathShape where
  last : String
  applied : Bool
  segments : Nat
  plain : Bool
  rooted : Bool := false

/-- The segments behind a path so far. Brackets behind a double colon belong to a function type. -/
def furtherSegments (g : Grammar) (inExpr : Bool) (p : PathShape) : Parser PathShape :=
  iterate (fun p => do
    if ← sees (Look.butNot (Look.marks "::") (Look.third (Look.group .round))) then
      marks "::"
      let (name, applied) ← g.segment inExpr
      return some { p with
        last := name, applied := applied, segments := p.segments + 1, plain := p.plain && !applied }
    else return none) p

def path (g : Grammar) (inExpr : Bool) : Parser PathShape := do
  let rooted ← marks? "::"
  let (name, applied) ← g.segment inExpr
  g.furtherSegments inExpr ⟨name, applied, 1, !applied, rooted⟩

/-- A path that may start at a type in angle brackets. The result tells whether it does. -/
def qualifiedPath (g : Grammar) (inExpr : Bool) : Parser (Bool × PathShape) := do
  if ← marks? "<" then
    discard (g.type true)
    if ← word? "as" then discard (g.path false)
    marks ">"
    marks "::"
    let first ← g.segment inExpr
    let rest ← whileSees (Look.marks "::") (do marks "::"; g.segment inExpr)
    let (name, applied) := (first :: rest).getLast (by simp)
    return (true, ⟨name, applied, rest.length + 2, false, false⟩)
  else
    return (false, ← g.path inExpr)

def genericParameter (g : Grammar) : Parser Unit := do
  discard g.outerAttributes
  if ← sees Look.lifetime then
    lifetime
    if ← marks? ":" then
      discard (separated "+" (Look.any [Look.nothing, Look.oneOf [",", ">"]]) lifetime)
  else if ← word? "const" then
    discard name
    marks ":"
    discard (g.type true)
    if ← marks? "=" then g.constArgument
  else
    require (Look.any [Look.name, Look.word "_"])
    discard anyWord
    if ← marks? ":" then
      discard (separated "+" (Look.oneOf [",", ">", "="]) (g.bound true))
    if ← marks? "=" then discard (g.type true)

/-- Generic parameters in angle brackets, if there are any. -/
def generics (g : Grammar) : Parser Unit := do
  if ← marks? "<" then
    discard (separated "," (Look.marks ">") g.genericParameter)
    marks ">"

/-- The parameters behind `for`, if there are any. -/
def binder (g : Grammar) : Parser Bool := do
  if ← word? "for" then
    marks "<"
    discard (separated "," (Look.marks ">") g.genericParameter)
    marks ">"
    return true
  else return false

/-- Function types write their arguments in round brackets. The result is the shape of what they
return, if they say so. -/
def functionArguments (g : Grammar) : Parser (Option TypeShape) := do
  discard (listIn .round (g.type true))
  if ← marks? "->" then return some (← g.type false) else return none

def startsFunctionArguments : Look :=
  Look.any [Look.group .round, Look.both (Look.marks "::") (Look.third (Look.group .round))]

/-- A trait as a bound, with what may stand before its path. -/
def traitBound (g : Grammar) (allowConst : Bool) : Parser Unit := do
  let bindsBefore ← g.binder
  if ← sees (Look.group .square) then
    inGroup .square (word "const")
    if !allowConst then failure
  else if ← sees (Look.both (Look.marks "~") (Look.second (Look.word "const"))) then
    dropTokens 2
    if !allowConst then failure
  else if ← word? "const" then
    if !allowConst then failure
  let maybe ← marks? "?"
  if maybe && !bindsBefore then discard g.binder
  let p ← g.path false
  if !p.applied && (← sees startsFunctionArguments) then
    discard (marks? "::")
    discard g.functionArguments

/-- The captured parameters of an opaque type. -/
def captures : Parser Unit := do
  word "use"
  marks "<"
  discard (separated "," (Look.marks ">") do
    if ← sees Look.lifetime then lifetime
    else
      require (Look.any [Look.name, Look.word "Self"])
      discard anyWord)
  marks ">"

/-- A lifetime or a trait, possibly in round brackets. -/
def boundRule (g : Grammar) (allowConst : Bool) : Parser Unit := do
  if ← sees Look.lifetime then lifetime
  else if ← sees (Look.group .round) then inGroup .round (g.traitBound allowConst)
  else g.traitBound allowConst

def startsBound : Look :=
  Look.any [Look.anyWord, Look.oneOf ["::", "?"], Look.lifetime, Look.group .round]

/-- A bound, where an opaque type may also name what it captures. The result is whether it is more than
a lifetime. -/
def boundOrCaptures (g : Grammar) (opaqueType : Bool) : Parser Bool := do
  if opaqueType && (← sees (Look.word "use")) then
    captures
    return true
  else
    let isLifetime ← sees Look.lifetime
    g.bound opaqueType
    return !isLifetime

/-- Bounds joined by plus signs. At least one of them is no lifetime. The result is whether there is a
single one without a plus sign behind it. -/
def bounds (g : Grammar) (several opaqueType : Bool) : Parser Bool := do
  let next := Look.any [startsBound, fun ts => opaqueType && Look.group .square ts]
  let first ← g.boundOrCaptures opaqueType
  let others ← whileSees (fun ts => several && Look.marks "+" ts && Look.second next ts)
    (do marks "+"; g.boundOrCaptures opaqueType)
  let trailing ← if several then marks? "+" else pure false
  if (first :: others).contains true then return others.isEmpty && !trailing else failure

/-- The bounds behind a plus sign. -/
def furtherBounds (g : Grammar) : Parser Unit :=
  discard (whileSees (Look.marks "+") (do marks "+"; g.bound false))

def whereClause (g : Grammar) : Parser Unit := do
  if ← word? "where" then discard (separated "," stop predicate)
where
  stop : Look := Look.any [Look.nothing, Look.group .curly, Look.oneOf [",", ";", "="],
    Look.butNot (Look.marks ":") (Look.marks "::")]
  predicate : Parser Unit := do
    if ← sees (Look.both Look.lifetime (Look.second (Look.marks ":"))) then
      lifetime
      marks ":"
      discard (separated "+" stop lifetime)
    else
      discard g.binder
      discard (g.type true)
      marks ":"
      discard (separated "+" stop (g.bound true))

def externName : Parser Unit := do
  if ← word? "extern" then whenSees Look.textLiteral (dropTokens 1)

/-- One argument of a function pointer. The first may be the receiver. -/
def pointerArgument (g : Grammar) (first : Bool) : Parser Unit := do
  if first && (← sees (Look.both (Look.word "mut") (Look.second (Look.word "self")))) then
    dropTokens 2
    if ← sees (Look.butNot (Look.marks ":") (Look.marks "::")) then
      marks ":"
      discard (g.type true)
  else
    let named := Look.both
      (Look.any [Look.name, Look.word "_", fun ts => first && Look.word "self" ts])
      (Look.second (Look.butNot (Look.marks ":") (Look.marks "::")))
    if ← sees named then dropTokens 2
    discard (g.type true)

/-- The arguments of a function pointer. Dots in place of the last one stand for any further ones. -/
def pointerArguments (g : Grammar) : Parser Unit := inGroup .round do
  discard (iterate (fun first => do
    if ← sees Look.nothing then return none
    discard g.outerAttributes
    if ← sees (Look.marks "...") then
      endOfList 0
      return none
    else if ← sees (Look.both (Look.any [Look.name, Look.word "_"])
        (Look.both (Look.second (Look.marks ":")) (Look.third (Look.marks "...")))) then
      endOfList 2
      return none
    else
      g.pointerArgument first
      if ← sees Look.nothing then return none
      marks ","
      return some false) true)
where
  endOfList (n : Nat) : Parser Unit := do
    dropTokens n
    marks "..."
    discard (marks? ",")

def functionPointer (g : Grammar) : Parser Unit := do
  discard (word? "unsafe")
  externName
  word "fn"
  g.pointerArguments
  if ← marks? "->" then discard (g.type false)

/-- A type in round brackets, a tuple, or the first of several bounds. -/
def roundType (g : Grammar) (allowPlus : Bool) : Parser TypeShape := do
  let (shape, canBeBound) ← inGroup .round do
    if ← sees Look.nothing then return (TypeShape.other, false)
    else if ← sees Look.lifetime then
      discard (g.bounds true false)
      return (.parenthesised, false)
    else if ← sees (Look.marks "?") then
      g.traitBound false
      return (.bound, true)
    else
      let first ← g.type true
      if ← marks? "," then
        discard (separated "," Look.nothing (g.type true))
        return (.other, false)
      else
        return (.parenthesised, match first with
          | .path _ qualified _ => !qualified
          | .bound => true
          | _ => false)
  if shape = .bound then
    if ← sees (Look.marks "+") then
      g.furtherBounds
      return .other
    else return .bound
  else if canBeBound && allowPlus && (← sees (Look.marks "+")) then
    g.furtherBounds
    return .other
  else return shape

/-- A path as a type, and the bounds and the macro call that may start like one. -/
def pathType (g : Grammar) (allowPlus bound : Bool) : Parser TypeShape := do
  let (qualified, p) ← g.qualifiedPath false
  let (p, function) ← iterate (fun (p, _) => do
    if !p.applied && (← sees startsFunctionArguments) then
      discard (marks? "::")
      let result ← g.functionArguments
      let p := { p with applied := true, plain := false }
      if result matches none | some .parenthesised then
        let q ← g.furtherSegments false p
        return some (q, q.segments == p.segments)
      else return some (p, true)
    else return none) (p, false)
  if qualified then return .path p.last true false
  else if p.plain && (← sees (Look.butNot (Look.marks "!") (Look.marks "!="))) then
    marks "!"
    discard anyGroup
    return .other
  else if bound then
    if allowPlus then more
    return .bound
  else if allowPlus && (← sees (Look.marks "+")) then
    more
    return .other
  else
    return .path p.last false (p.segments == 1 && !function && !p.rooted)
where
  more : Parser Unit := do
    discard (whileSees (Look.both (Look.marks "+") (Look.second startsBound))
      (do marks "+"; g.bound false))
    discard (marks? "+")

def typeRule (g : Grammar) (allowPlus : Bool) : Parser TypeShape := do
  let bound ← g.binder
  if bound then
    require (Look.any [Look.name, Look.oneOf ["fn", "unsafe", "extern"], Look.pathWord])
  if ← sees (Look.group .round) then g.roundType allowPlus
  else if ← sees (Look.oneOf ["fn", "unsafe", "extern"]) then
    g.functionPointer
    return .other
  else if ← sees (Look.any [Look.name, Look.pathWord, Look.oneOf ["::", "<"]]) then
    g.pathType allowPlus bound
  else if ← word? "dyn" then
    discard (marks? "*")
    discard (g.bounds allowPlus false)
    return .other
  else if ← sees (Look.group .square) then
    inGroup .square do
      discard (g.type true)
      if ← marks? ";" then discard (g.expr true)
    return .other
  else if ← marks? "*" then
    if !(← word? "const") then word "mut"
    discard (g.type false)
    return .other
  else if ← marks? "&" then
    discard lifetime?
    discard (word? "mut")
    discard (g.type false)
    return .other
  else if ← sees (Look.butNot (Look.marks "!") (Look.marks "=")) then
    marks "!"
    return .other
  else if ← word? "impl" then
    discard (g.bounds allowPlus true)
    return .other
  else if ← word? "_" then return .other
  else if ← sees Look.lifetime then
    return if ← g.bounds true false then .bound else .other
  else failure

end RouteDocs.Source.Grammar
