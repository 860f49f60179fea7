import RouteDocs.Source.Token
import RouteDocs.Text.Basic
import RouteDocs.Text.Identifier

namespace RouteDocs.Source

open Text

/-- Directional marks separate tokens as blanks do. -/
def isGap (c : Char) : Bool := isBlank c || c == '\u200e' || c == '\u200f'

/-- The rest after a block comment, whose opening is already counted in the depth. -/
def afterBlockComment : Nat → List Char → Option (List Char)
  | 0, s => some s
  | d + 1, '/' :: '*' :: s => afterBlockComment (d + 2) s
  | d + 1, '*' :: '/' :: s => afterBlockComment d s
  | d + 1, _ :: s => afterBlockComment (d + 1) s
  | _ + 1, [] => none

/-- A line comment up to the end of its line. A carriage return before the line feed is dropped. -/
def lineRest : List Char → List Char × List Char
  | [] => ([], [])
  | '\n' :: s => ([], '\n' :: s)
  | '\r' :: '\n' :: s => ([], '\n' :: s)
  | c :: s =>
    let (line, rest) := lineRest s
    (c :: line, rest)

/-- Whether a comment that starts here is left out of the tokens. -/
def startsPlainComment : List Char → Bool
  | '/' :: '/' :: '/' :: '/' :: _ => true
  | '/' :: '/' :: '/' :: _ => false
  | '/' :: '/' :: '!' :: _ => false
  | '/' :: '/' :: _ => true
  | _ => false

def startsPlainBlock : List Char → Bool
  | '/' :: '*' :: '*' :: '*' :: _ => true
  | '/' :: '*' :: '*' :: '/' :: _ => true
  | '/' :: '*' :: '*' :: _ => false
  | '/' :: '*' :: '!' :: _ => false
  | '/' :: '*' :: _ => true
  | _ => false

/-- Skips blanks and plain comments. A block comment without an end stays where it is. -/
def skipGaps (s : List Char) : List Char :=
  go s.length s
where
  /-- Each round takes off at least one character. -/
  go : Nat → List Char → List Char
    | 0, s => s
    | _ + 1, [] => []
    | n + 1, c :: s =>
      if startsPlainComment (c :: s) then go n (lineRest s).2
      else if startsPlainBlock (c :: s) then
        if (c :: s).take 4 == "/**/".toList then go n (s.drop 3)
        else
          match afterBlockComment 1 (s.drop 1) with
          | some rest => go n rest
          | none => c :: s
      else if isGap c then go n s
      else c :: s

/-- A carriage return is followed by a line feed wherever it occurs. -/
def returnsArePaired : List Char → Bool
  | [] => true
  | '\r' :: '\n' :: s => returnsArePaired s
  | '\r' :: _ => false
  | _ :: s => returnsArePaired s

/-- The text of a documentation comment at the front, whether it documents what contains it, and
the rest. -/
def docComment? (s : List Char) : Option (List Char × Bool × List Char) :=
  let found : Option (List Char × Bool × List Char) :=
    match s with
    | '/' :: '/' :: '!' :: r =>
      let (line, rest) := lineRest r
      some (line, true, rest)
    | '/' :: '/' :: '/' :: '/' :: _ => none
    | '/' :: '/' :: '/' :: r =>
      let (line, rest) := lineRest r
      some (line, false, rest)
    | '/' :: '*' :: '!' :: r => block true r
    | '/' :: '*' :: '*' :: '*' :: _ => none
    | '/' :: '*' :: '*' :: '/' :: _ => none
    | '/' :: '*' :: '*' :: r => block false r
    | _ => none
  found.filter fun (text, _, _) => returnsArePaired text
where
  block (inner : Bool) (r : List Char) : Option (List Char × Bool × List Char) :=
    (afterBlockComment 1 r).map fun rest =>
      (r.take (r.length - rest.length - 2), inner, rest)

/-- The attribute a documentation comment stands for. -/
def docTokens (text : List Char) (inner : Bool) : List Token :=
  let content := Token.group .square
    [.word "doc", .mark '=' false, .literal (.text (String.ofList text))]
  if inner then [.mark '#' false, .mark '!' false, content] else [.mark '#' false, content]

/-- A word without the marker of a raw word. -/
def plainWord? : List Char → Option (List Char × List Char)
  | c :: s =>
    if startsIdentifier c then
      some (c :: s.takeWhile continuesIdentifier, s.dropWhile continuesIdentifier)
    else none
  | [] => none

def anyWord? : List Char → Option (List Char × List Char)
  | 'r' :: '#' :: s => do
    let (name, rest) ← plainWord? s
    if [['_'], "super".toList, "self".toList, "Self".toList, "crate".toList].contains name then none
    else some ('r' :: '#' :: name, rest)
  | s => plainWord? s

/-- Starts that announce a literal, so no word begins there even if the literal is malformed. -/
def literalStarts : List (List Char) :=
  ["r\"", "r#\"", "r##", "b\"", "b'", "br\"", "br#", "c\"", "cr\"", "cr#"].map String.toList

def word? (s : List Char) : Option (List Char × List Char) :=
  if literalStarts.any (·.isPrefixOf s) then none else anyWord? s

def isMark (c : Char) : Bool := "~!@#$%^&*-=+|;:,<.>/?'".toList.contains c

/-- A mark at the front. A slash that opens a comment is none. -/
def startsMark : List Char → Bool
  | '/' :: '/' :: _ => false
  | '/' :: '*' :: _ => false
  | c :: _ => isMark c
  | [] => false

def mark? : List Char → Option (Token × List Char)
  | '\'' :: s => do
    let (_, rest) ← anyWord? s
    match rest with
    | '\'' :: _ => none
    | '#' :: _ => if "r#".toList.isPrefixOf s then some (.mark '\'' true, s) else none
    | _ => some (.mark '\'' true, s)
  | c :: s => if startsMark (c :: s) then some (.mark c (startsMark s), s) else none
  | [] => none

inductive Quoted where
  | text
  | bytes
  | terminated
  deriving DecidableEq

/-- A word directly behind a literal is its suffix. -/
def afterSuffix (s : List Char) : List Char :=
  match plainWord? s with
  | some (_, rest) => rest
  | none => s

def hexValue? (c : Char) : Option Nat :=
  if c.isDigit then some (c.toNat - '0'.toNat)
  else if 'a' ≤ c && c ≤ 'f' then some (c.toNat - 'a'.toNat + 10)
  else if 'A' ≤ c && c ≤ 'F' then some (c.toNat - 'A'.toNat + 10)
  else none

/-- The hexadecimal digits of a braced escape, at most six, with underscores after the first. -/
def braced? (count value : Nat) : List Char → Option (Char × List Char)
  | '}' :: s =>
    if count = 0 then none
    else if h : value.isValidChar then some (Char.ofNatAux value h, s)
    else none
  | '_' :: s => if count = 0 then none else braced? count value s
  | c :: s => do
    let digit ← hexValue? c
    if count = 6 then none else braced? (count + 1) (16 * value + digit) s
  | [] => none

/-- The character behind a backslash, line ends excepted. -/
def escaped? (q : Quoted) : List Char → Option (Char × List Char)
  | 'x' :: a :: b :: s => do
    let high ← hexValue? a
    let low ← hexValue? b
    match q with
    | .text => if high < 8 then some (Char.ofNat (16 * high + low), s) else none
    | .bytes => some (Char.ofNat (16 * high + low), s)
    | .terminated => if high = 0 ∧ low = 0 then none else some (Char.ofNat (16 * high + low), s)
  | 'u' :: '{' :: s =>
    match q with
    | .text => braced? 0 0 s
    | .bytes => none
    | .terminated => (braced? 0 0 s).filter fun (c, _) => c.toNat ≠ 0
  | 'n' :: s => some ('\n', s)
  | 'r' :: s => some ('\r', s)
  | 't' :: s => some ('\t', s)
  | '\\' :: s => some ('\\', s)
  | '\'' :: s => some ('\'', s)
  | '"' :: s => some ('"', s)
  | '0' :: s => if q = .terminated then none else some (Char.ofNat 0, s)
  | _ => none

/-- Skips the line end behind a backslash and the blanks of the next lines. -/
def afterContinuation : List Char → Option (List Char)
  | [] => none
  | '\r' :: '\n' :: s => afterContinuation s
  | '\r' :: _ => none
  | c :: s => if c == ' ' || c == '\t' || c == '\n' then afterContinuation s else some (c :: s)

/-- May stand unescaped in a literal of this kind. -/
def standsIn (q : Quoted) (c : Char) : Bool :=
  match q with
  | .text => true
  | .bytes => c.toNat < 128
  | .terminated => c.toNat != 0

/-- The content of a literal up to its closing quote, decoded, and what follows the quote. -/
def cooked? (q : Quoted) (s : List Char) : Option (List Char × List Char) :=
  go s.length s
where
  /-- Each round takes off at least one character. -/
  go : Nat → List Char → Option (List Char × List Char)
    | 0, _ => none
    | _ + 1, [] => none
    | _ + 1, '"' :: s => some ([], s)
    | n + 1, '\r' :: s =>
      match s with
      | '\n' :: s => (go n s).map fun (text, rest) => ('\n' :: text, rest)
      | _ => none
    | n + 1, '\\' :: c :: s =>
      if c == '\n' || c == '\r' then do go n (← afterContinuation (c :: s))
      else do
        let (d, s) ← escaped? q (c :: s)
        let (text, rest) ← go n s
        some (d :: text, rest)
    | n + 1, c :: s =>
      if standsIn q c && c != '\\' then (go n s).map fun (text, rest) => (c :: text, rest) else none

/-- The content of a raw literal: it ends at a quote followed by as many hashes as it opened with. -/
def raw? (q : Quoted) (s : List Char) : Option (List Char × List Char) :=
  let hashes := s.takeWhile (· == '#')
  match s.dropWhile (· == '#') with
  | '"' :: body => if hashes.length ≤ 255 then go hashes body else none
  | _ => none
where
  go (hashes : List Char) : List Char → Option (List Char × List Char)
    | [] => none
    | '\r' :: '\n' :: s => (go hashes s).map fun (text, rest) => ('\r' :: '\n' :: text, rest)
    | '\r' :: _ => none
    | c :: s =>
      match (if c == '"' then hashes.isPrefixOf? s else none) with
      | some rest => some ([], rest)
      | none => if standsIn q c then (go hashes s).map fun (text, rest) => (c :: text, rest) else none

/-- One character, possibly escaped, and the closing quote. -/
def quotedChar? (q : Quoted) : List Char → Option (List Char)
  | '\\' :: s => do
    let (_, s) ← escaped? q s
    s.head?.bind fun c => if c == '\'' then some s.tail else none
  | c :: '\'' :: s => if standsIn q c then some s else none
  | _ => none

def isDigitOrGap (c : Char) : Bool := c.isDigit || c == '_'

/-- What follows the exponent whose `e` has been taken off, if it has a digit. -/
def afterExponent? (s : List Char) : Option (List Char) :=
  let signed := s.dropWhile (· == '_')
  let digits :=
    match signed with
    | '+' :: r => r.dropWhile (· == '_')
    | '-' :: r => r.dropWhile (· == '_')
    | r => r
  match digits with
  | c :: _ => if c.isDigit then some (digits.dropWhile isDigitOrGap) else none
  | [] => none

/-- What follows a number with a point or an exponent. The point takes part in the number unless
another point or a word follows it. -/
def afterReal? (s : List Char) : Option (List Char) :=
  match s.dropWhile isDigitOrGap with
  | '.' :: r =>
    match r with
    | c :: _ =>
      if c == '.' || startsIdentifier c then none
      else
        let fraction := r.dropWhile isDigitOrGap
        match fraction with
        | 'e' :: e => some ((afterExponent? e).getD fraction)
        | 'E' :: e => some ((afterExponent? e).getD fraction)
        | _ => some fraction
    | [] => some []
  | 'e' :: e => afterExponent? e
  | 'E' :: e => afterExponent? e
  | _ => none

/-- A number is followed by no further identifier character. -/
def endsNumber : List Char → Bool
  | c :: _ => !continuesIdentifier c
  | [] => true

def real? (s : List Char) : Option (Token × List Char) := do
  let rest := afterSuffix (← afterReal? s)
  if endsNumber rest then
    some (.literal (.real (String.ofList (s.take (s.length - rest.length)))), rest)
  else none

/-- The digits of a whole number, with their base. -/
def wholeDigits? (s : List Char) : Option (Nat × List Char × List Char) :=
  match s with
  | '0' :: 'x' :: r =>
    let isPart := fun c : Char => (hexValue? c).isSome || c == '_'
    some (16, r.takeWhile isPart, r.dropWhile isPart)
  | '0' :: 'o' :: r => some (8, r.takeWhile isDigitOrGap, r.dropWhile isDigitOrGap)
  | '0' :: 'b' :: r => some (2, r.takeWhile isDigitOrGap, r.dropWhile isDigitOrGap)
  | c :: _ =>
    if c.isDigit then some (10, s.takeWhile isDigitOrGap, s.dropWhile isDigitOrGap) else none
  | [] => none

def whole? (s : List Char) : Option (Token × List Char) := do
  let (base, part, r) ← wholeDigits? s
  let digits := part.filterMap hexValue?
  let suffix := (plainWord? r).map (·.1) |>.getD []
  let rest := r.drop suffix.length
  if digits.isEmpty || digits.any (base ≤ ·) || !endsNumber rest then none
  else
    let value := digits.foldl (fun n d => base * n + d) 0
    some (.literal (.integer value (String.ofList suffix)), rest)

def number? (s : List Char) : Option (Token × List Char) :=
  match s with
  | c :: _ => if c.isDigit then real? s <|> whole? s else none
  | [] => none

/-- A literal at the front. What opens like one kind of literal is never read as another. -/
def literal? (s : List Char) : Option (Token × List Char) :=
  let plain := fun (rest : Option (List Char)) =>
    rest.map fun r => (Token.literal .other, afterSuffix r)
  let text := fun (found : Option (List Char × List Char)) =>
    found.map fun (t, r) => (Token.literal (.text (String.ofList t)), afterSuffix r)
  match s with
  | '"' :: r => text (cooked? .text r)
  | 'b' :: '"' :: r => plain ((cooked? .bytes r).map (·.2))
  | 'b' :: '\'' :: r => plain (quotedChar? .bytes r)
  | 'c' :: '"' :: r => plain ((cooked? .terminated r).map (·.2))
  | '\'' :: r => plain (quotedChar? .text r)
  | 'r' :: r => text (raw? .text r)
  | 'b' :: 'r' :: r => plain ((raw? .bytes r).map (·.2))
  | 'c' :: 'r' :: r => plain ((raw? .terminated r).map (·.2))
  | _ => number? s

/-- A place where a compiler has already reported an error is written as this comment in brackets. -/
def errorMark : List Char := "(/*ERROR*/)".toList

def leaf? (s : List Char) : Option (Token × List Char) :=
  literal? s <|> mark? s <|>
    (word? s).map (fun (name, rest) => (.word (String.ofList name), rest)) <|>
    (errorMark.isPrefixOf? s).map (fun rest => (.literal .other, rest))

def opening? (s : List Char) : Option (Bracket × List Char) :=
  match s with
  | '(' :: r => if errorMark.isPrefixOf s then none else some (.round, r)
  | '[' :: r => some (.square, r)
  | '{' :: r => some (.curly, r)
  | _ => none

def closing? : List Char → Option (Bracket × List Char)
  | ')' :: r => some (.round, r)
  | ']' :: r => some (.square, r)
  | '}' :: r => some (.curly, r)
  | _ => none

/-- Reads tokens to the end. Each open bracket keeps the tokens before it, last one first. -/
def tokensAux : Nat → List (Bracket × List Token) → List Token → List Char → Option (List Token)
  | 0, _, _, _ => none
  | n + 1, outer, done, s =>
    let s := skipGaps s
    match docComment? s with
    | some (text, inner, rest) => tokensAux n outer ((docTokens text inner).reverse ++ done) rest
    | none =>
      match s with
      | [] => if outer.isEmpty then some done.reverse else none
      | _ :: _ =>
        match opening? s, closing? s with
        | some (bracket, rest), _ => tokensAux n ((bracket, done) :: outer) [] rest
        | none, some (bracket, rest) =>
          match outer with
          | (opened, before) :: outer =>
            if opened = bracket then
              tokensAux n outer (.group bracket done.reverse :: before) rest
            else none
          | [] => none
        | none, none => do
          let (token, rest) ← leaf? s
          tokensAux n outer (token :: done) rest

/-- The tokens of a text, or `none` if a character or bracket is out of place. Each step takes off at
least one character, so their number bounds the steps. -/
def tokens? (s : List Char) : Option (List Token) := tokensAux (s.length + 1) [] [] s

end RouteDocs.Source
