import RouteDocs.Yaml.Lexer
import RouteDocs.Yaml.Node

namespace RouteDocs.Yaml

/-- The anchors so far. An anchor has the number of names before it, so that one whose name is used again
may share its number with another one; then the later of the two counts. -/
structure Anchors where
  /-- The present number of each name. -/
  names : List (String × Nat) := []
  /-- The numbers of all anchors, from the last to the first, each with its place among them. -/
  declared : List (Nat × Nat) := []
  /-- The values by their places. -/
  values : List (Nat × Node) := []

namespace Anchors

/-- Declares an anchor, and tells its place. -/
def declare (as : Anchors) (name : String) : Nat × Anchors :=
  let number := as.names.length
  let place := as.declared.length
  let others := as.names.filter (·.1 ≠ name)
  (place, { as with names := (name, number) :: others, declared := (number, place) :: as.declared })

def define (as : Anchors) (place : Nat) (n : Node) : Anchors := { as with values := (place, n) :: as.values }

/-- The value of each number. -/
def list (as : Anchors) : List (Nat × Node) :=
  as.declared.filterMap fun (number, place) => (as.values.lookup place).map (number, ·)

end Anchors

structure Parsing where
  tokens : List Token
  /-- What the handles of tags stand for. -/
  handles : List (String × String) := []
  anchors : Anchors := {}

abbrev Parser := StateT Parsing Option

namespace Parser

def peek : Parser (Option Token) := do return (← get).tokens.head?

def skip : Parser Unit := modify fun p => { p with tokens := p.tokens.tail }

/-- Whether one of the given tokens is next. -/
def nextIn (ts : List Token) : Parser Bool := do return (← peek).any ts.contains

def expect (t : Token) : Parser Unit := do if ← nextIn [t] then skip else failure

def defaultHandles : List (String × String) := [("!", "!"), ("!!", "tag:yaml.org,2002:")]

/-- The full text of a tag. -/
def fullTag (t : TagName) : Parser String := do
  if t.handle.isEmpty then return t.ending
  match ((← get).handles ++ defaultHandles).lookup t.handle with
  | some start => return start ++ t.ending
  | none => failure

def anchor? : Parser (Option String) := do
  match ← peek with
  | some (.anchor name) =>
    skip
    return some name
  | _ => return none

def tag? : Parser (Option String) := do
  match ← peek with
  | some (.tag name) =>
    skip
    return some (← fullTag name)
  | _ => return none

/-- An anchor and a tag, in any order. -/
def properties : Parser (Option String × Option String) := do
  match ← anchor? with
  | some name => return (some name, ← tag?)
  | none =>
    let tag ← tag?
    return (← anchor?, tag)

/-- The number of an anchor that is there already. -/
def numberOf (name : String) : Parser Nat := do
  match (← get).anchors.names.lookup name with
  | some number => return number
  | none => failure

/-- A value under an anchor, which may occur in it. -/
def anchored (name : Option String) (value : Parser Node) : Parser Node := do
  match name with
  | none => value
  | some name =>
    let (place, as) := (← get).anchors.declare name
    modify fun p => { p with anchors := as }
    let n ← value
    modify fun p => { p with anchors := p.anchors.define place n }
    return n

/-- Where a value stands: whether it may be a block, and whether a list need not be indented. -/
structure Position where
  block : Bool
  level : Bool

def inside : Position := ⟨false, false⟩

def nested : Position := ⟨true, false⟩

def half : Position := ⟨true, true⟩

mutual

def node : Nat → Position → Parser Node
  | 0, _ => failure
  | n + 1, position => do
    match ← peek with
    | some (.alias name) =>
      skip
      return .alias (← numberOf name)
    | _ =>
      let (name, tag) ← properties
      anchored name (content n position tag (name.isSome || tag.isSome))

/-- The value behind its properties. The shortest tag does not count for a text. -/
def content : Nat → Position → Option String → Bool → Parser Node
  | 0, _, _, _ => failure
  | n + 1, position, tag, hasProperties => do
    match ← peek with
    | some (.text s plain) =>
      skip
      return .text s plain (if tag = some "!" then none else tag)
    | some .openList =>
      skip
      return .list tag (← items n true)
    | some .openRecord =>
      skip
      return .mapping tag (← entries n true)
    | t =>
      if t = some .item && position.level then return .list tag (← levelItems n)
      else if t = some .openSequence && position.block then
        skip
        return .list tag (← blockItems n)
      else if t = some .openMapping && position.block then
        skip
        return .mapping tag (← blockEntries n)
      else if hasProperties then return .text "" true tag
      else failure

/-- A value, unless one of the given tokens shows that there is none. -/
def nodeUnless : Nat → List Token → Position → Parser Node
  | 0, _, _ => failure
  | n + 1, ends, position => do if ← nextIn ends then return .nothing else node n position

/-- The items of an indented list. -/
def blockItems : Nat → Parser (List Node)
  | 0 => failure
  | n + 1 => do
    if ← nextIn [.item] then
      skip
      let v ← nodeUnless n [.item, .closeBlock] nested
      return v :: (← blockItems n)
    else
      expect .closeBlock
      return []

/-- The items of a list in the column of the entry that it belongs to. -/
def levelItems : Nat → Parser (List Node)
  | 0 => failure
  | n + 1 => do
    if ← nextIn [.item] then
      skip
      let v ← nodeUnless n [.item, .key, .value, .closeBlock] nested
      return v :: (← levelItems n)
    else return []

def blockEntries : Nat → Parser (List (Node × Node))
  | 0 => failure
  | n + 1 => do
    if ← nextIn [.key] then
      skip
      let k ← nodeUnless n [.key, .value, .closeBlock] half
      let v ← valueAfter n [.key, .value, .closeBlock] half
      return (k, v) :: (← blockEntries n)
    else
      expect .closeBlock
      return []

/-- The value behind a colon, or nothing where there is no colon. -/
def valueAfter : Nat → List Token → Position → Parser Node
  | 0, _, _ => failure
  | n + 1, ends, position => do
    if ← nextIn [.value] then
      skip
      nodeUnless n ends position
    else return .nothing

/-- The items of a list in brackets. A comma may stand behind the last one. -/
def items : Nat → Bool → Parser (List Node)
  | 0, _ => failure
  | n + 1, first => do
    if ← nextIn [.closeList] then
      skip
      return []
    if !first then expect .comma
    if ← nextIn [.key] then
      skip
      let k ← pairKey n
      let v ← valueAfter n [.comma, .closeList] inside
      return .mapping none [(k, v)] :: (← items n false)
    else if ← nextIn [.closeList] then
      skip
      return []
    else
      let v ← node n inside
      return v :: (← items n false)

/-- The key of an item that is an entry. Where there is none, the token in its place is passed over. -/
def pairKey : Nat → Parser Node
  | 0 => failure
  | n + 1 => do
    if ← nextIn [.value, .comma, .closeList] then
      skip
      return .nothing
    else node n inside

/-- The entries of a mapping in brackets. A comma may stand behind the last one. -/
def entries : Nat → Bool → Parser (List (Node × Node))
  | 0, _ => failure
  | n + 1, first => do
    if ← nextIn [.closeRecord] then
      skip
      return []
    if !first then expect .comma
    if ← nextIn [.key] then
      skip
      let k ← nodeUnless n [.value, .comma, .closeRecord] inside
      let v ← valueAfter n [.comma, .closeRecord] inside
      return (k, v) :: (← entries n false)
    else if ← nextIn [.closeRecord] then
      skip
      return []
    else
      let k ← node n inside
      return (k, .nothing) :: (← entries n false)

end

/-- The directives before a document. A document has one version, and a handle one meaning. -/
def directives : List Token → Bool → List (String × String) → Option (List (String × String) × List Token)
  | .version major minor :: ts, versioned, handles =>
    if !versioned && major = 1 && (minor = 1 || minor = 2) then directives ts true handles else none
  | .handle name start :: ts, versioned, handles =>
    if (handles.lookup name).isNone then directives ts versioned ((name, start) :: handles) else none
  | ts, _, handles => some (handles, ts)

def isDirective : Token → Bool
  | .version .. | .handle .. => true
  | _ => false

/-- Whether a document ends before a token. -/
def isOutside (t : Token) : Bool := isDirective t || t = .documentStart || t = .documentEnd

/-- The value of a document, which may have directives and a mark before it. -/
def document : Parser Node := do
  let p ← get
  let bound := 4 * p.tokens.length + 4
  if p.tokens.head?.any fun t => isDirective t || t = .documentStart then
    let (handles, tokens) ← directives p.tokens false []
    set { p with handles, tokens }
    expect .documentStart
    if (← peek).all isOutside then return .nothing else node bound nested
  else node bound nested

end Parser

/-- The document of a stream. Nothing may follow but marks of its end. -/
def Tree.ofText? (text : String) : Option Tree := do
  let ts ← tokens? text
  if ts.isEmpty then some ⟨.nothing, []⟩
  else
    let (root, p) ← Parser.document.run { tokens := ts }
    if p.tokens.all (· = .documentEnd) then some ⟨root, p.anchors.list⟩ else none

end RouteDocs.Yaml
