import RouteDocs.Yaml.Scalar
import RouteDocs.Yaml.Text.Folding

namespace RouteDocs.Yaml.Quoted

/-- A part of a quoted text. The last two lie between words. -/
inductive Part where
  | char (c : Char)
  | between (c : Char)
  | join
  deriving DecidableEq, Repr

/-- What the parts say, where `b` lies before them. -/
def textOf (b : Between) : List Part → List Char
  | [] => b.text
  | .char c :: ps => b.text ++ c :: textOf .nothing ps
  | .between c :: ps => textOf (b.add c) ps
  | .join :: ps => b.text ++ textOf (.joined []) ps

/-- Escapes of one character. -/
def escapes : List (Char × Char) :=
  [('0', '\x00'), ('a', '\x07'), ('b', '\x08'), ('t', '\t'), ('\t', '\t'), ('n', '\n'), ('v', '\x0b'),
   ('f', '\x0c'), ('r', '\r'), ('e', '\x1b'), (' ', ' '), ('"', '"'), ('/', '/'), ('\\', '\\'),
   ('N', '\u0085'), ('_', '\u00a0'), ('L', '\u2028'), ('P', '\u2029')]

/-- The character of a hexadecimal number. -/
def charOf? (digits : List Char) : Option Char := do
  let n ← Meaning.inBase? 16 digits
  if n.isValidChar then some (Char.ofNat n) else none

/-- A gap or a line end, behind which the mark of a document is no text. -/
def between? (c : Char) (rest : List Char) : Option Part :=
  if isBreak c && isDocumentMark rest then none else some (.between c)

/-- The parts up to the closing double quote. -/
def double? : List Char → Option (List Part × List Char)
  | [] => none
  | '"' :: s => some ([], s)
  | '\\' :: 'x' :: a :: b :: s => charThen [a, b] (double? s)
  | '\\' :: 'u' :: a :: b :: c :: d :: s => charThen [a, b, c, d] (double? s)
  | '\\' :: 'U' :: a :: b :: c :: d :: e :: f :: g :: h :: s =>
    charThen [a, b, c, d, e, f, g, h] (double? s)
  | '\\' :: c :: s => do
    let (ps, rest) ← double? s
    if isBreak c then
      if isDocumentMark s then none else some (.join :: ps, rest)
    else some (.char (← escapes.lookup c) :: ps, rest)
  | c :: s => do
    let (ps, rest) ← double? s
    if isGap c || isBreak c then some ((← between? c s) :: ps, rest)
    else some (.char c :: ps, rest)
where
  charThen (digits : List Char) (after : Option (List Part × List Char)) :
      Option (List Part × List Char) := do
    let (ps, rest) ← after
    some (.char (← charOf? digits) :: ps, rest)

/-- The parts up to the closing single quote. -/
def single? : List Char → Option (List Part × List Char)
  | [] => none
  | '\'' :: '\'' :: s => (single? s).map fun (ps, rest) => (.char '\'' :: ps, rest)
  | '\'' :: s => some ([], s)
  | c :: s => do
    let (ps, rest) ← single? s
    if isGap c || isBreak c then some ((← between? c s) :: ps, rest)
    else some (.char c :: ps, rest)

/-- A text whose opening quote is taken, and what follows it. -/
def text? (quote : Char) (s : List Char) : Option (String × List Char) := do
  let (ps, rest) ← if quote = '"' then double? s else single? s
  some (String.ofList (textOf .nothing ps), rest)

end RouteDocs.Yaml.Quoted
