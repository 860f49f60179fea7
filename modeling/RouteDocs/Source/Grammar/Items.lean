import RouteDocs.Source.Grammar.Expressions

namespace RouteDocs.Source.Grammar

open Source.Parser

/-- Whether a function starts here, with the words that may stand before `fn`. -/
def startsFunction (allowSafe : Bool) : Look := fun ts =>
  ((do
    discard (word? "const")
    discard (word? "async")
    if !(← word? "unsafe") && allowSafe then discard (word? "safe")
    externName
    word "fn" : Parser Unit).run ts).isSome

/-- The receiver of a method. -/
def receiver (g : Grammar) : Parser Unit := do
  if ← marks? "&" then
    discard lifetime?
    discard (word? "mut")
    word "self"
  else
    discard (word? "mut")
    word "self"
    if ← marks? ":" then discard (g.type true)

/-- A parameter that is no receiver. The result is whether it stands for all further arguments. -/
def parameter (g : Grammar) : Parser Bool := do
  if ← sees (Look.both Look.name (Look.second (Look.marks "<"))) then
    discard (g.type true)
    return false
  else
    discard g.pattern
    marks ":"
    if ← marks? "..." then return true
    else
      discard (g.type true)
      return false

/-- Only the first parameter may be a receiver, and only the last may stand for all further ones. -/
def parameters (g : Grammar) : Parser Unit := inGroup .round do
  discard (iterate (fun first => do
    if ← sees Look.nothing then return none
    discard g.outerAttributes
    let isReceiver ← (do g.receiver; return true) <|> pure false
    let isLast ←
      if isReceiver then pure false
      else if ← marks? "..." then pure true
      else g.parameter
    if isReceiver && !first then failure
    if isLast then
      if ← sees Look.nothing then pure () else marks ","
      return none
    if ← sees Look.nothing then return none
    marks ","
    return some false) true)

/-- Everything of a function but its body. The result is its name. -/
def signature (g : Grammar) (allowSafe : Bool) : Parser String := do
  discard (word? "const")
  discard (word? "async")
  if !(← word? "unsafe") && allowSafe then discard (word? "safe")
  externName
  word "fn"
  let name ← name
  g.generics
  g.parameters
  if ← marks? "->" then discard (g.type true)
  g.whereClause
  return name

/-- A function with its body, or `none` if a semicolon stands in its place. The body may add
documentation. -/
def function (g : Grammar) (docs : List String) : Parser (Option Function) := do
  let name ← g.signature false
  if ← marks? ";" then return none
  else return some ⟨name, docs ++ (← g.attributedBlock)⟩

/-- What a constant is called. -/
def constName : Parser Unit := do
  require (Look.any [Look.name, Look.word "_"])
  discard anyWord

def constItem (g : Grammar) : Parser Unit := do
  word "const"
  constName
  g.generics
  marks ":"
  discard (g.type true)
  if ← marks? "=" then discard (g.expr true)
  g.whereClause
  marks ";"

def staticItem (g : Grammar) : Parser Unit := do
  word "static"
  discard (word? "mut")
  discard name
  if ← marks? ":" then discard (g.type true) else require (Look.marks "=")
  if ← marks? "=" then discard (g.expr true)
  marks ";"

/-- Where the conditions of a type definition may stand. -/
inductive WherePlace where
  | before
  | behind
  | either
  deriving DecidableEq

def typeItem (g : Grammar) (place : WherePlace) : Parser Unit := do
  word "type"
  discard name
  g.generics
  if ← marks? ":" then
    discard (separated "+" (Look.oneOf ["where", "=", ";"]) (g.bound true))
  let early ← sees (Look.word "where")
  if place ≠ .behind then g.whereClause
  if ← marks? "=" then discard (g.type true)
  if place = .behind || (place = .either && !early) then g.whereClause
  marks ";"

/-- A field with a name. -/
def namedField (g : Grammar) : Parser Unit := do
  discard g.outerAttributes
  discard visibility
  let isUnnamed ← sees (Look.word "_")
  if isUnnamed then dropTokens 1 else discard name
  marks ":"
  let isInline := Look.any [Look.word "struct",
    Look.both (Look.word "union") (Look.second (Look.group .curly))]
  if isUnnamed && (← sees isInline) then
    dropTokens 1
    discard (listIn .curly nested)
  else discard (g.type true)
where
  nested : Parser Unit := do
    discard g.outerAttributes
    discard visibility
    discard name
    marks ":"
    discard (g.type true)

def unnamedField (g : Grammar) : Parser Unit := do
  discard g.outerAttributes
  discard visibility
  discard (g.type true)

def structItem (g : Grammar) : Parser Unit := do
  word "struct"
  discard name
  g.generics
  let early ← sees (Look.word "where")
  g.whereClause
  if !early && (← sees (Look.group .round)) then
    discard (listIn .round g.unnamedField)
    g.whereClause
    marks ";"
  else if ← sees (Look.group .curly) then discard (listIn .curly g.namedField)
  else marks ";"

def variant (g : Grammar) : Parser Unit := do
  discard g.outerAttributes
  discard visibility
  discard name
  if ← sees (Look.group .curly) then discard (listIn .curly g.namedField)
  else whenSees (Look.group .round) (listIn .round g.unnamedField)
  if ← marks? "=" then discard (g.expr true)

def enumItem (g : Grammar) : Parser Unit := do
  word "enum"
  discard name
  g.generics
  g.whereClause
  discard (listIn .curly g.variant)

def unionItem (g : Grammar) : Parser Unit := do
  word "union"
  discard name
  g.generics
  g.whereClause
  discard (listIn .curly g.namedField)

def useTreeRule (g : Grammar) (allowRoot : Bool) : Parser (Option UseTree) := do
  if ← sees (Look.any [Look.name, Look.oneOf ["self", "super", "crate", "try"]]) then
    let name ← anyWord
    if ← marks? "::" then return (← g.useTree false).map (.path name)
    else if ← word? "as" then
      require (Look.any [Look.name, Look.word "_"])
      return some (.rename name (← anyWord))
    else return some (.name name)
  else if ← marks? "*" then return some .glob
  else
    let trees ← listIn .curly do
      let rooted ← if allowRoot then marks? "::" else pure false
      let tree ← g.useTree (allowRoot && !rooted)
      return if rooted then none else tree
    return (trees.mapM id).map .group

def useItem (g : Grammar) : Parser Item := do
  word "use"
  let rooted ← marks? "::"
  let tree ← g.useTree (!rooted)
  marks ";"
  return match tree with
    | some tree => .imports tree
    | none => .other

/-- A call in curly brackets needs no semicolon. -/
def macroRest (bracket : Bracket) : Parser Unit := do
  if bracket ≠ .curly then marks ";"

def memberMacro : Parser Unit := do macroRest (← macroCall)

/-- A macro call as an item, possibly with the name of what it defines. -/
def macroItem : Parser Unit := do
  discard plainPath
  marks "!"
  whenSees (Look.any [Look.name, Look.word "try"]) anyWord
  macroRest (← anyGroup)

def macroDefinition : Parser Unit := do
  word "macro"
  discard name
  whenSees (Look.group .round) anyGroup
  require (Look.group .curly)
  discard anyGroup

def startsMacro : Look := Look.any [Look.name, Look.oneOf ["self", "super", "crate", "::"]]

/-- A member of an implementation. The result is the function it defines, if it does. -/
def member (g : Grammar) : Parser (Option Function) := do
  let docs ← g.outerAttributes
  let visible ← visibility
  let isDefault ← sees (Look.butNot (Look.word "default") (Look.second (Look.marks "!")))
  if isDefault then dropTokens 1
  if ← sees (startsFunction false) then g.function docs
  else if ← sees (Look.word "const") then
    g.constItem
    return none
  else if ← sees (Look.word "type") then
    g.typeItem .behind
    return none
  else if !visible && !isDefault && (← sees startsMacro) then
    memberMacro
    return none
  else failure

def traitMember (g : Grammar) : Parser Unit := do
  discard g.outerAttributes
  let visible ← visibility
  let isDefault ← word? "default"
  if ← sees (startsFunction false) then discard (g.function [])
  else if ← sees (Look.word "const") then g.constItem
  else if ← sees (Look.word "type") then g.typeItem .behind
  else if !visible && !isDefault && (← sees startsMacro) then memberMacro
  else failure

def foreignMember (g : Grammar) : Parser Unit := do
  discard g.outerAttributes
  let visible ← visibility
  if ← sees (startsFunction true) then
    discard (g.signature true)
    if ← marks? ";" then pure () else discard g.attributedBlock
  else if ← sees (Look.any [Look.word "static",
      Look.both (Look.oneOf ["unsafe", "safe"]) (Look.second (Look.word "static"))]) then
    if !(← word? "unsafe") then discard (word? "safe")
    word "static"
    discard (word? "mut")
    discard name
    marks ":"
    discard (g.type true)
    if ← marks? "=" then discard (g.expr true)
    marks ";"
  else if ← sees (Look.word "type") then g.typeItem .either
  else if !visible && (← sees startsMacro) then memberMacro
  else failure

def moduleItem (g : Grammar) : Parser Item := do
  discard (word? "unsafe")
  word "mod"
  if !(← word? "try") then discard name
  if ← marks? ";" then return .other
  else inGroup .curly do
    discard g.innerAttributes
    return .submodule (← untilSees Look.nothing g.item)

def traitItem (g : Grammar) : Parser Unit := do
  let plain ← sees (Look.word "trait")
  discard (word? "unsafe")
  discard (word? "auto")
  word "trait"
  discard name
  g.generics
  if plain && (← marks? "=") then
    discard (separated "+" (Look.oneOf ["where", ";"]) (g.bound true))
    g.whereClause
    marks ";"
  else
    if ← marks? ":" then
      discard (separated "+" (Look.any [Look.word "where", Look.group .curly]) (g.bound true))
    g.whereClause
    inGroup .curly do
      discard g.innerAttributes
      discard (untilSees Look.nothing g.traitMember)

def foreignItem (g : Grammar) : Parser Unit := do
  discard (word? "unsafe")
  require (Look.word "extern")
  externName
  inGroup .curly do
    discard g.innerAttributes
    discard (untilSees Look.nothing g.foreignMember)

def crateItem : Parser Unit := do
  word "extern"
  word "crate"
  if !(← word? "self") then discard name
  if ← word? "as" then constName
  marks ";"

/-- An implementation. Its methods belong to the last name in the path of its type; without such a
path, and if it is marked as visible or constant, they belong to nothing. -/
def implItem (g : Grammar) (visible : Bool) : Parser Item := do
  discard (word? "default")
  discard (word? "unsafe")
  word "impl"
  if ← sees opensGenerics then g.generics
  let constant ← sees (Look.any [Look.word "const",
    Look.both (Look.marks "?") (Look.second (Look.word "const"))])
  if constant then
    discard (marks? "?")
    word "const"
  let negative ← sees (Look.butNot (Look.marks "!") (Look.second (Look.group .curly)))
  if negative then marks "!"
  let first ← g.type true
  let isFor ← word? "for"
  let owner ← if isFor then g.type true else pure first
  g.whereClause
  let fs ← inGroup .curly do
    discard g.innerAttributes
    untilSees Look.nothing g.member
  let ofTrait := first matches .path _ false _
  return match owner with
    | .path name _ _ =>
      if visible || constant || (isFor && !ofTrait) || (negative && !isFor) then .other
      else .methods name (fs.filterMap id)
    | _ => .other

def startsImpl : Look := Look.any [Look.word "impl",
  Look.butNot (Look.word "default") (Look.second (Look.marks "!"))]

def startsTrait : Look :=
  Look.any [Look.word "trait", Look.both (Look.word "auto") (Look.second (Look.word "trait"))]

/-- An item behind its attributes. -/
def itemRest (g : Grammar) (docs : List String) : Parser Item := do
  let visible ← visibility
  if ← sees (startsFunction false) then
    match ← g.function docs with
    | some f => return .function f
    | none => return .other
  else if ← sees (Look.word "extern") then
    if ← sees (Look.second (Look.word "crate")) then crateItem
    else if visible then failure
    else g.foreignItem
    return .other
  else if ← sees (Look.word "use") then g.useItem
  else if ← sees (Look.word "static") then
    g.staticItem
    return .other
  else if ← sees (Look.word "const") then
    g.constItem
    return .other
  else if ← sees (Look.word "unsafe") then
    if ← sees (Look.second startsTrait) then
      g.traitItem
      return .other
    else if ← sees (Look.second (Look.word "impl")) then g.implItem visible
    else if ← sees (Look.second (Look.word "extern")) then
      if visible then failure
      g.foreignItem
      return .other
    else g.moduleItem
  else if ← sees (Look.word "mod") then g.moduleItem
  else if ← sees (Look.word "type") then
    g.typeItem .before
    return .other
  else if ← sees (Look.word "struct") then
    g.structItem
    return .other
  else if ← sees (Look.word "enum") then
    g.enumItem
    return .other
  else if ← sees (Look.both (Look.word "union") (Look.second Look.name)) then
    g.unionItem
    return .other
  else if ← sees startsTrait then
    g.traitItem
    return .other
  else if ← sees startsImpl then g.implItem visible
  else if ← sees (Look.word "macro") then
    macroDefinition
    return .other
  else if !visible && (← sees startsMacro) then
    macroItem
    return .other
  else failure

def itemRule (g : Grammar) : Parser Item := do g.itemRest (← g.outerAttributes)

/-- Whether an item starts here rather than an expression. -/
def startsItem : Look := Look.any [
  Look.oneOf ["pub", "extern", "use", "fn", "mod", "type", "struct", "enum", "trait", "impl", "macro"],
  Look.butNot (Look.word "crate") (Look.second (Look.marks "::")),
  Look.both (Look.word "static") (Look.second (Look.any [Look.word "mut", Look.name])),
  Look.butNot (Look.word "const") (Look.any [
    Look.second (Look.any [Look.group .curly, Look.oneOf ["static", "move", "|"]]),
    Look.butNot (Look.second (Look.word "async")) (Look.third (Look.oneOf ["unsafe", "extern", "fn"]))]),
  Look.butNot (Look.word "unsafe") (Look.second (Look.group .curly)),
  Look.both (Look.word "async") (Look.second (Look.oneOf ["unsafe", "extern", "fn"])),
  Look.both (Look.word "union") (Look.second Look.name),
  Look.both (Look.word "auto") (Look.second (Look.word "trait")),
  Look.both (Look.word "default") (Look.second (Look.oneOf ["unsafe", "impl"]))]

/-- How a statement that starts with a macro call goes on. -/
inductive MacroStart where
  | item
  | statement
  | none
  deriving DecidableEq

/-- A call in curly brackets is a statement of its own, unless a dot or a question mark follows. -/
def macroStart (ts : List Token) : MacroStart :=
  match plainPath.run ts with
  | some (_, rest) =>
    if Look.marks "!" rest then
      if Look.second (Look.any [Look.name, Look.word "try"]) rest then .item
      else if Look.second (Look.group .curly) rest &&
          !Look.third (Look.any [Look.butNot (Look.marks ".") (Look.marks ".."), Look.marks "?"]) rest then
        .statement
      else .none
    else .none
  | Option.none => .none

/-- A declaration of variables. The block behind `else` may not follow a curly bracket. -/
def localStatement (g : Grammar) : Parser Unit := do
  word "let"
  discard g.pattern
  if ← marks? ":" then discard (g.type true)
  if ← marks? "=" then
    let (_, braced) ← endsInBrace (g.expr true)
    if !braced && (← sees (Look.word "else")) then
      dropTokens 1
      g.block
  marks ";"

/-- A statement. The result is whether another one may follow it directly. -/
def statement (g : Grammar) : Parser Bool := do
  let docs ← g.outerAttributes
  let start := macroStart (← ahead)
  if start = .statement then
    discard macroCall
    discard (marks? ";")
    return true
  else if ← sees (Look.word "let") then
    g.localStatement
    return true
  else if start = .item || (← sees startsItem) then
    discard (g.itemRest docs)
    return true
  else
    let shape ← g.leading
    return (← marks? ";") || shape = .block || shape = .braced

def statementsRule (g : Grammar) : Parser Unit :=
  discard (iterate (fun _ => do
    discard (whileSees (Look.marks ";") (marks ";"))
    if ← sees Look.nothing then return none
    let closed ← g.statement
    if ← sees Look.nothing then return none
    if closed then return some () else failure) ())

/-- Lets every rule refer to the rules of `g`. -/
def unfold (g : Grammar) : Grammar where
  type := g.typeRule
  expr := g.exprRule
  operand := g.operandRule
  operators := g.operatorsRule
  leading := g.leadingRule
  pattern := g.patternRule
  bound := g.boundRule
  statements := g.statementsRule
  item := g.itemRule
  useTree := g.useTreeRule

/-- The grammar for rules nested up to the given depth. -/
def ofDepth (n : Nat) : Grammar := Nat.repeat unfold n empty

end RouteDocs.Source.Grammar
