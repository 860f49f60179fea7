import RouteDocs.Yaml.Text.Block
import RouteDocs.Yaml.Text.Plain
import RouteDocs.Yaml.Text.Quoted
import RouteDocs.Yaml.Token

namespace RouteDocs.Yaml

structure Cursor where
  rest : List Char
  line : Nat := 0
  column : Nat := 0

namespace Cursor

def pass (place : Nat × Nat) (c : Char) : Nat × Nat :=
  if isBreak c then (place.1 + 1, 0) else (place.1, place.2 + 1)

/-- The cursor before a rest of its text. -/
def moveTo (c : Cursor) (rest : List Char) : Cursor :=
  let (line, column) := (c.rest.take (c.rest.length - rest.length)).foldl pass (c.line, c.column)
  ⟨rest, line, column⟩

end Cursor

/-- A token that may start a key. It has to start one if nothing else can stand there. The mark of a key is
put in before it when its colon comes, so it is remembered until then or until its line ends. -/
structure Candidate where
  position : Nat
  line : Nat
  column : Nat
  required : Bool

structure Lexer where
  cursor : Cursor
  /-- The columns of the open blocks, from the innermost out. -/
  columns : List Nat := []
  /-- Whether a key may start here. -/
  keyAllowed : Bool := true
  candidate : Option Candidate := none
  /-- The candidates around the open brackets, from the innermost out. -/
  outer : List (Option Candidate) := []
  tokens : Array Token := #[]

namespace Lexer

def inBrackets (l : Lexer) : Bool := !l.outer.isEmpty

def push (l : Lexer) (t : Token) : Lexer := { l with tokens := l.tokens.push t }

def skip (l : Lexer) (n : Nat) : Lexer := { l with cursor := l.cursor.moveTo (l.cursor.rest.drop n) }

/-- Takes a token that ends before a rest of the text. -/
def take (l : Lexer) (t : Token) (rest : List Char) : Lexer :=
  { l.push t with cursor := l.cursor.moveTo rest }

/-- The text behind gaps and comments, and whether a key may start there. Tabs count as gaps where no key
may start. -/
def behindGaps (inBrackets : Bool) (keyAllowed inComment atStart : Bool) : List Char → List Char × Bool
  | [] => ([], keyAllowed)
  | c :: s =>
    if isBreak c then behindGaps inBrackets (keyAllowed || !inBrackets) false true s
    else if inComment || c = '#' then behindGaps inBrackets keyAllowed true false s
    else if c = ' ' || (c = '\t' && (inBrackets || !keyAllowed)) then
      behindGaps inBrackets keyAllowed false false s
    else if c = '\ufeff' && atStart then behindGaps inBrackets keyAllowed false false s
    else (c :: s, keyAllowed)

def skipGaps (l : Lexer) : Lexer :=
  let (rest, keyAllowed) :=
    behindGaps l.inBrackets l.keyAllowed false (l.cursor.column == 0) l.cursor.rest
  { l with cursor := l.cursor.moveTo rest, keyAllowed }

/-- A key has at most 1024 characters, all of them on one line. -/
def isStale (c : Cursor) (k : Candidate) : Bool := k.line < c.line || k.column + 1024 < c.column

/-- Drops candidates that are too far away. None of them may be required. -/
def dropStale (l : Lexer) : Option Lexer :=
  let stale := fun (k : Option Candidate) => k.any (isStale l.cursor)
  if (l.candidate :: l.outer).any fun k => stale k && k.any (·.required) then none
  else
    let fresh := fun k => if stale k then none else k
    some { l with candidate := fresh l.candidate, outer := l.outer.map fresh }

def dropCandidate (l : Lexer) : Option Lexer :=
  if l.candidate.any (·.required) then none else some { l with candidate := none }

/-- Remembers the next token, if a key may start here. In the column of a block nothing else can. -/
def saveCandidate (l : Lexer) : Option Lexer :=
  if l.keyAllowed then do
    let l ← l.dropCandidate
    let required := !l.inBrackets && l.columns.head? = some l.cursor.column
    some { l with candidate := some ⟨l.tokens.size, l.cursor.line, l.cursor.column, required⟩ }
  else some l

/-- Opens a block, unless one is open in that column or further right. Its token may belong before others. -/
def openBlock (l : Lexer) (column : Nat) (position : Nat) (t : Token) : Lexer :=
  if l.inBrackets || l.columns.head?.any (column ≤ ·) then l
  else
    { l with columns := column :: l.columns, tokens := l.tokens.insertIdxIfInBounds position t }

/-- Closes the blocks that satisfy a condition on their columns. -/
def closeBlocks (l : Lexer) (p : Nat → Bool) : Lexer :=
  if l.inBrackets then l
  else
    let closed := l.columns.takeWhile p
    { l with
      columns := l.columns.dropWhile p
      tokens := l.tokens ++ closed.map fun _ => Token.closeBlock }

/-- The start or the end of a document, or a directive before it. All blocks end here. -/
def outside (l : Lexer) (t : Token) (rest : List Char) : Option Lexer := do
  let l ← (l.closeBlocks fun _ => true).dropCandidate
  some ({ l with keyAllowed := false }.take t rest)

def openBracket (l : Lexer) (t : Token) : Option Lexer := do
  let l ← l.saveCandidate
  some ({ l with outer := l.candidate :: l.outer, candidate := none, keyAllowed := true }.push t |>.skip 1)

def closeBracket (l : Lexer) (t : Token) : Option Lexer := do
  let l ← l.dropCandidate
  let l := { l with candidate := (l.outer.head?).join, outer := l.outer.tail, keyAllowed := false }
  some ((l.push t).skip 1)

def comma (l : Lexer) : Option Lexer := do
  let l ← l.dropCandidate
  some (({ l with keyAllowed := true }.push .comma).skip 1)

/-- The mark of an item or a key. Outside of brackets it may open a block. -/
def entry (l : Lexer) (block mark : Token) : Option Lexer := do
  if !l.inBrackets && !l.keyAllowed then none
  let l ← (l.openBlock l.cursor.column l.tokens.size block).dropCandidate
  some ((l.push mark).skip 1)

def item (l : Lexer) : Option Lexer :=
  (l.entry .openSequence .item).map fun l => { l with keyAllowed := true }

def key (l : Lexer) : Option Lexer :=
  (l.entry .openMapping .key).map fun l => { l with keyAllowed := !l.inBrackets }

/-- A colon. The candidate, if there is one, turns out to be a key. -/
def value (l : Lexer) : Option Lexer :=
  match l.candidate with
  | some k =>
    let l := { l with tokens := l.tokens.insertIdxIfInBounds k.position .key }
    let l := l.openBlock k.column k.position .openMapping
    some (({ l with candidate := none, keyAllowed := false }.push .value).skip 1)
  | none =>
    if l.inBrackets then some (({ l with keyAllowed := false }.push .value).skip 1)
    else if l.keyAllowed then
      some (((l.openBlock l.cursor.column l.tokens.size .openMapping).push .value).skip 1)
    else none

/-- A token that may start a key. -/
def node (l : Lexer) (t : Token) (rest : List Char) : Option Lexer := do
  let l ← l.saveCandidate
  some ({ l with keyAllowed := false }.take t rest)

def quoted (l : Lexer) (quote : Char) (s : List Char) : Option Lexer := do
  let (t, rest) ← Quoted.text? quote s
  l.node (.text t false) rest

/-- A key may follow where the text has passed a line end. -/
def plain (l : Lexer) : Option Lexer := do
  let margin := (l.columns.head?.map (· + 1)).getD 0
  let (t, passed, rest) ← Plain.read? ⟨l.inBrackets, margin⟩ l.cursor.column .nothing l.cursor.rest
  let l ← l.node (.text (String.ofList t) true) rest
  some { l with keyAllowed := passed }

def block (l : Lexer) (literal : Bool) (s : List Char) : Option Lexer := do
  let l ← l.dropCandidate
  let (t, rest) ← BlockText.text? literal l.columns.head? s
  some ({ l with keyAllowed := true }.take (.text t false) rest)

/-- The characters that mean something else than the start of a plain text. -/
def indicators : List Char := ",[]\x7b\x7d#&*!|>'\"%@\x60".toList

/-- The next token, where the text starts with the given character. -/
def token? (l : Lexer) (c : Char) (s : List Char) : Option Lexer :=
  let atStart := l.cursor.column == 0
  let separate := l.inBrackets || endsWord s
  if atStart && c = '%' then do
    let (t, rest) ← Directive.read? s
    l.outside t rest
  else if atStart && isDocumentMark (c :: s) then
    l.outside (if c = '-' then .documentStart else .documentEnd) (s.drop 2)
  else if c = '[' then l.openBracket .openList
  else if c = '{' then l.openBracket .openRecord
  else if c = ']' then l.closeBracket .closeList
  else if c = '}' then l.closeBracket .closeRecord
  else if c = ',' then l.comma
  else if c = '-' && endsWord s then l.item
  else if c = '?' && separate then l.key
  else if c = ':' && separate then l.value
  else if c = '*' || c = '&' then do
    let (name, rest) ← anchorName? s
    l.node (if c = '*' then .alias name else .anchor name) rest
  else if c = '!' then do
    let (name, rest) ← TagName.read? l.inBrackets s
    l.node (.tag name) rest
  else if (c = '|' || c = '>') && !l.inBrackets then l.block (c == '|') s
  else if c = '\'' || c = '"' then l.quoted c s
  else if isGap c || indicators.contains c then none
  else l.plain

/-- All tokens. Each takes a character at least, so their number bounds the rounds. -/
def run : Nat → Lexer → Option (List Token)
  | 0, _ => none
  | n + 1, l => do
    let l ← l.skipGaps.dropStale
    let l := l.closeBlocks (l.cursor.column < ·)
    match l.cursor.rest with
    | [] =>
      let l ← (l.closeBlocks fun _ => true).dropCandidate
      some l.tokens.toList
    | c :: s => (← l.token? c s).run n

end Lexer

/-- The tokens of a stream. A byte order mark may precede it. -/
def tokens? (text : String) : Option (List Token) :=
  let s := text.toList
  let s := if s.head? = some '\ufeff' then s.tail else s
  if s.all isAllowed then
    let s := oneBreakEach s
    Lexer.run (s.length + 1) { cursor := { rest := s } }
  else none

end RouteDocs.Yaml
