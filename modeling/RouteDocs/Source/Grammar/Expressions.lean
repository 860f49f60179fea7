import RouteDocs.Source.Grammar.Patterns

namespace RouteDocs.Source.Grammar

open Source.Parser

/-- The longest spelling comes first. -/
def binaryOperators : List (String × Precedence) :=
  [("+=", .assign), ("-=", .assign), ("*=", .assign), ("/=", .assign), ("%=", .assign),
   ("^=", .assign), ("&=", .assign), ("|=", .assign), ("<<=", .assign), (">>=", .assign),
   ("&&", .and), ("||", .or), ("<<", .shift), (">>", .shift), ("==", .compare), ("<=", .compare),
   ("!=", .compare), (">=", .compare), ("+", .sum), ("-", .sum), ("*", .product),
   ("/", .product), ("%", .product), ("^", .bitXor), ("&", .bitAnd), ("|", .bitOr),
   ("<", .compare), (">", .compare)]

def binaryOperator? (ts : List Token) : Option (String × Precedence) :=
  binaryOperators.find? fun (spelling, _) => Look.marks spelling ts

def startsAssignment : Look := Look.butNot (Look.marks "=") (Look.marks "=>")

/-- How tightly the operator ahead binds. -/
def nextPrecedence (ts : List Token) : Precedence :=
  match binaryOperator? ts with
  | some (_, precedence) => precedence
  | none =>
    if startsAssignment ts then .assign
    else if Look.marks ".." ts then .range
    else if Look.word "as" ts then .cast
    else .none

/-- The right side of an operator takes in all that binds more tightly. Assignments group from the right. -/
def rightSide (g : Grammar) (allowStruct : Bool) (precedence : Precedence) : Parser Unit := do
  let first ← g.operand allowStruct
  discard (iterate (fun lhs => do
    let before ← ahead
    let next := nextPrecedence before
    if precedence.rank < next.rank || (next = precedence && precedence = .assign) then
      let lhs ← g.operators allowStruct next lhs
      return if (← ahead).length = before.length then none else some lhs
    else return none) first)

/-- What follows the dots of a range, unless the range is open above. -/
def rangeEnd (g : Grammar) (allowStruct : Bool) : Parser Unit := do
  if ← marks? "..=" then g.rightSide allowStruct .range
  else
    refuse (Look.marks "...")
    marks ".."
    let isOpen := Look.any [Look.nothing,
      Look.oneOf [",", ";", "?", "=>", "=", "+", "/", "%", "^", ">", "<=", "!=", "-=", "*=", "&=", "|=",
        "<<=", "as"],
      Look.butNot (Look.marks ".") (Look.marks ".."),
      fun ts => !allowStruct && Look.group .curly ts]
    if ← sees isOpen then pure () else g.rightSide allowStruct .range

/-- What may not follow a cast directly. -/
def extendsCast : Look := Look.any [Look.butNot (Look.marks ".") (Look.marks ".."), Look.marks "?",
  Look.group .square, Look.group .round]

def operatorsRule (g : Grammar) (allowStruct : Bool) (base : Precedence) (lhs : ExprShape) :
    Parser ExprShape :=
  iterate (fun lhs => do
    let ts ← ahead
    if lhs = .range then return none
    match binaryOperator? ts with
    | some (spelling, precedence) =>
      if precedence.rank < base.rank then return none
      else if precedence = .compare && lhs = .comparison then failure
      else
        marks spelling
        g.rightSide allowStruct precedence
        return some (if precedence = .compare then .comparison else .other)
    | none =>
      if base.rank ≤ Precedence.assign.rank && startsAssignment ts then
        marks "="
        g.rightSide allowStruct .assign
        return some .other
      else if base.rank ≤ Precedence.range.rank && Look.marks ".." ts then
        g.rangeEnd allowStruct
        return some .range
      else if base.rank ≤ Precedence.cast.rank && Look.word "as" ts then
        word "as"
        discard (g.type false)
        refuse extendsCast
        return some .other
      else return none) lhs

/-- Two field numbers in a row look like a number with a point. The result is whether the point at the
end starts another access. -/
def fieldNumbers (lexeme : String) : Option Bool :=
  let parts := lexeme.splitOn "."
  let (numbers, trailing) :=
    if lexeme.endsWith "." then (parts.dropLast, true) else (parts, false)
  if numbers.all isFieldNumber then some trailing else none
where
  isFieldNumber (s : String) : Bool :=
    s.toList.head?.any Char.isDigit && s.all (fun c => c.isDigit || c == '_') &&
      decide ((s.toList.filter Char.isDigit).foldl (fun n c => 10 * n + (c.toNat - '0'.toNat)) 0 < Nat.pow 2 32)

/-- A field or a method call behind its dot. -/
def memberAccess (g : Grammar) : Parser Unit := do
  if ← word? "await" then pure ()
  else
    let isName ← sees Look.name
    fieldPattern.member
    let hasArguments ← sees (Look.marks "::")
    if isName && hasArguments then
      marks "::"
      g.genericArguments
      discard (listIn .round (g.expr true))
    else if isName then whenSees (Look.group .round) (listIn .round (g.expr true))

def dotAccess (g : Grammar) : Parser Unit := do
  marks "."
  match ← ahead with
  | .literal (.real lexeme) :: _ =>
    dropTokens 1
    match fieldNumbers lexeme with
    | some true => g.memberAccess
    | some false => pure ()
    | none => failure
  | _ => g.memberAccess

def calls (g : Grammar) (atom : ExprShape) : Parser ExprShape :=
  iterate (fun shape => do
    if ← sees (Look.group .round) then
      discard (listIn .round (g.expr true))
      return some .other
    else if shape ≠ .range && (← sees (Look.butNot (Look.marks ".") (Look.marks ".."))) then
      g.dotAccess
      return some .other
    else if ← sees (Look.group .square) then
      discard (inGroup .square (g.expr true))
      return some .other
    else if shape ≠ .range && (← sees (Look.marks "?")) then
      marks "?"
      return some .other
    else return none) atom

/-- Whether angle brackets ahead hold generic parameters and not the type a path starts at. -/
def opensGenerics : Look := Look.both (Look.marks "<") (Look.any [
  Look.second (Look.oneOf [">", "#", "const"]),
  Look.both (Look.second (Look.any [Look.lifetime, Look.name]))
    (Look.third (Look.any
      [Look.oneOf [">", ",", "="], Look.butNot (Look.marks ":") (Look.marks "::")]))])

/-- One field of a structure literal. -/
def fieldValue (g : Grammar) : Parser Unit := do
  discard g.outerAttributes
  let isName ← sees Look.name
  fieldPattern.member
  if !isName || (← sees (Look.marks ":")) then
    marks ":"
    discard (g.expr true)

def structureLiteral (g : Grammar) : Parser Unit := inGroup .curly do
  discard (separated "," Look.nothing do
    if ← marks? ".." then
      if ← sees Look.nothing then pure ()
      else
        discard (g.expr true)
        require Look.nothing
    else g.fieldValue)

def pathExpr (g : Grammar) (allowStruct : Bool) : Parser ExprShape := do
  let (qualified, p) ← g.qualifiedPath true
  if !qualified && p.plain && (← sees (Look.butNot (Look.marks "!") (Look.marks "!="))) then
    marks "!"
    return if (← anyGroup) = .curly then .braced else .other
  else if allowStruct && (← sees (Look.group .curly)) then
    g.structureLiteral
    return .other
  else return .other

def closureParameter (g : Grammar) : Parser Unit := do
  discard g.outerAttributes
  discard g.pattern
  if ← marks? ":" then discard (g.type true)

def closure (g : Grammar) (allowStruct : Bool) : Parser Unit := do
  discard g.binder
  discard (word? "const")
  discard (word? "static")
  discard (word? "async")
  discard (word? "move")
  marks "|"
  discard (separated "," (Look.marks "|") g.closureParameter)
  marks "|"
  if ← marks? "->" then
    discard (g.type true)
    g.block
  else discard (g.expr allowStruct)

def array (g : Grammar) : Parser Unit := inGroup .square do
  if ← sees Look.nothing then pure ()
  else
    discard (g.expr true)
    if ← marks? ";" then discard (g.expr true)
    else if ← marks? "," then discard (separated "," Look.nothing (g.expr true))

def binding (g : Grammar) (allowStruct : Bool) : Parser Unit := do
  word "let"
  discard g.alternatives
  marks "="
  discard (g.operators allowStruct .compare (← g.operand allowStruct))

/-- A condition and its branches. -/
def branches (g : Grammar) : Parser Unit :=
  discard (iterate (fun _ => do
    word "if"
    discard (g.expr false)
    g.block
    if ← word? "else" then
      if ← sees (Look.word "if") then return some ()
      else
        g.block
        return none
    else return none) ())

def loop (g : Grammar) : Parser Unit := do
  if ← word? "while" then discard (g.expr false)
  else if ← word? "for" then
    discard g.alternatives
    word "in"
    discard (g.expr false)
  else word "loop"
  discard g.attributedBlock

/-- Starts an expression, so that one may follow `return` and its like. -/
def startsExpr : Look := Look.any [
  Look.butNot Look.anyWord (Look.word "as"),
  Look.group .round, Look.group .square, Look.group .curly, Look.literal, Look.lifetime,
  Look.butNot (Look.marks "!") (Look.marks "!="),
  Look.butNot (Look.marks "-") (Look.oneOf ["-=", "->"]),
  Look.butNot (Look.marks "*") (Look.marks "*="),
  Look.butNot (Look.marks "|") (Look.marks "|="),
  Look.butNot (Look.marks "&") (Look.marks "&="),
  Look.butNot (Look.marks "<") (Look.oneOf ["<=", "<<="]),
  Look.oneOf ["..", "::", "#"]]

/-- A label behind `break` is not the label of a loop. -/
def breakExpr (g : Grammar) (allowStruct : Bool) : Parser Unit := do
  word "break"
  if ← lifetime? then refuse (Look.marks ":")
  if ← sees (Look.butNot startsExpr (fun ts => !allowStruct && Look.group .curly ts)) then
    discard (g.expr allowStruct)

/-- A labelled loop or block. -/
def labelled (g : Grammar) : Parser Unit := do
  lifetime
  marks ":"
  if ← sees (Look.group .curly) then discard g.attributedBlock else g.loop

/-- A match arm. The mark behind it may be left out behind a block. -/
def matchArm (g : Grammar) : Parser Unit := do
  discard g.outerAttributes
  discard g.alternatives
  if ← word? "if" then discard (g.expr true)
  marks "=>"
  let shape ← g.leading
  if shape = .block || (← sees Look.nothing) then discard (marks? ",") else marks ","

def matchExpr (g : Grammar) : Parser Unit := do
  word "match"
  discard (g.expr false)
  inGroup .curly do
    discard g.innerAttributes
    discard (untilSees Look.nothing g.matchArm)

def startsClosure : Look := Look.any [
  Look.oneOf ["|", "move", "static"],
  Look.both (Look.word "for") (fun ts => opensGenerics (Look.dropOne ts)),
  Look.both (Look.word "const") (fun ts => !Look.second (Look.group .curly) ts),
  Look.both (Look.word "async") (Look.second (Look.oneOf ["|", "move"]))]

def startsAsyncBlock : Look := Look.both (Look.word "async") (Look.any [
  Look.second (Look.group .curly),
  Look.both (Look.second (Look.word "move")) (Look.third (Look.group .curly))])

/-- Expressions that end a statement or a match arm with their block. -/
def blockLike? (g : Grammar) : Parser Bool := do
  if ← sees (Look.word "if") then
    g.branches
    return true
  else if ← sees (Look.oneOf ["while", "loop"]) then
    g.loop
    return true
  else if ← sees (Look.butNot (Look.word "for") (fun ts => opensGenerics (Look.dropOne ts))) then
    g.loop
    return true
  else if ← sees (Look.word "match") then
    g.matchExpr
    return true
  else if ← sees (Look.both (Look.word "try") (Look.second (Look.group .curly))) then
    dropTokens 1
    g.block
    return true
  else if ← word? "unsafe" then
    discard g.attributedBlock
    return true
  else if ← sees (Look.both (Look.word "const") (Look.second (Look.group .curly))) then
    dropTokens 1
    discard g.attributedBlock
    return true
  else if ← sees (Look.group .curly) then
    discard g.attributedBlock
    return true
  else if ← sees Look.lifetime then
    g.labelled
    return true
  else return false

def atom (g : Grammar) (allowStruct : Bool) : Parser ExprShape := do
  if ← sees Look.literal then
    literal
    return .other
  else if ← sees startsAsyncBlock then
    dropTokens 1
    discard (word? "move")
    g.block
    return .other
  else if ← sees startsClosure then
    g.closure allowStruct
    return .other
  else if ← sees (Look.any [Look.name, Look.pathWord, Look.oneOf ["::", "<"],
      Look.both (Look.word "try") (Look.second (Look.oneOf ["!", "::"]))]) then
    g.pathExpr allowStruct
  else if ← sees (Look.group .round) then
    discard (listIn .round (g.expr true))
    return .other
  else if ← sees (Look.word "break") then
    g.breakExpr allowStruct
    return .other
  else if ← word? "continue" then
    discard lifetime?
    return .other
  else if ← word? "return" then
    whenSees startsExpr (g.expr allowStruct)
    return .other
  else if ← word? "become" then
    discard (g.expr true)
    return .other
  else if ← sees (Look.group .square) then
    g.array
    return .other
  else if ← sees (Look.word "let") then
    g.binding allowStruct
    return .other
  else if ← word? "yield" then
    whenSees startsExpr (g.expr true)
    return .other
  else if ← sees (Look.marks "..") then
    g.rangeEnd allowStruct
    return .range
  else if ← word? "_" then return .other
  else if ← g.blockLike? then return .block
  else failure

def operandRule (g : Grammar) (allowStruct : Bool) : Parser ExprShape := do
  discard g.outerAttributes
  if ← marks? "&" then
    let isRaw := Look.both (Look.word "raw") (Look.second (Look.oneOf ["mut", "const"]))
    if ← sees isRaw then dropTokens 2 else discard (word? "mut")
    discard (g.operand allowStruct)
    return .other
  else if ← sees (Look.oneOf ["*", "!", "-"]) then
    dropTokens 1
    discard (g.operand allowStruct)
    return .other
  else g.calls (← g.atom allowStruct)

def exprRule (g : Grammar) (allowStruct : Bool) : Parser ExprShape := do
  g.operators allowStruct .none (← g.operand allowStruct)

def leadingRule (g : Grammar) : Parser ExprShape := do
  discard g.outerAttributes
  if ← g.blockLike? then
    if ← sees (Look.any [Look.butNot (Look.marks ".") (Look.marks ".."), Look.marks "?"]) then
      g.operators true .none (← g.calls .block)
    else return .block
  else g.exprRule true

end RouteDocs.Source.Grammar
