import RouteDocs.Json.Printer
import RouteDocs.Yaml.Character
import RouteDocs.Yaml.Scalar

namespace RouteDocs.Yaml

/-- An exponent that is not negative has no sign. -/
def numberStyle : Decimal.Style := { Json.numberStyle with plus := "" }

inductive TextStyle where
  | plain
  | single
  | double
  | literal
  deriving DecidableEq, Repr

namespace TextStyle

/-- A pair of neighbours with the given properties. -/
def hasPair (p q : Char → Bool) (s : List Char) : Bool := (s.zip s.tail).any fun (a, b) => p a && q b

/-- Whether the first character of a text means something else there. -/
def startsOther (s : List Char) : Bool :=
  match s with
  | [] => false
  | c :: r =>
    "#,[]\x7b\x7d&*!|>'\"%@\x60".toList.contains c || ("?:-".toList.contains c && endsWord r) ||
      ['-', '-', '-'].isPrefixOf s || ['.', '.', '.'].isPrefixOf s

/-- Whether a colon in a text would make a key of it, or a hash a comment. -/
def holdsOther : List Char → Bool
  | [] => false
  | [c] => c == ':'
  | c :: d :: r => (c == ':' && endsWord (d :: r)) || (endsWord [c] && d == '#') || holdsOther (d :: r)

def isBlankAt (end? : List Char → Option Char) (s : List Char) : Bool :=
  (end? s).any fun c => c == ' ' || isBreak c

/-- Texts that can only be written with escapes. -/
def needsEscapes (s : List Char) : Bool := s.any (!isPrintable ·) || hasPair (· == ' ') isBreak s

def allowsPlain (s : List Char) : Bool :=
  !needsEscapes s && !s.any isBreak && !isBlankAt List.head? s && !isBlankAt List.getLast? s &&
    !startsOther s && !holdsOther s.tail

def allowsSingle (s : List Char) : Bool := !needsEscapes s && !hasPair isBreak (· == ' ') s

def allowsLiteral (s : List Char) : Bool := !needsEscapes s && s.getLast?.any (· ≠ ' ')

/-- The style of a text that has a line end in it. -/
def ofLines (s : List Char) : TextStyle := if allowsLiteral s then .literal else .double

/-- The style of a text. -/
def ofText (t : String) : TextStyle :=
  let s := t.toList
  if s.contains '\n' then ofLines s
  else if Meaning.isText t && !Meaning.hasLeadingZero s && allowsPlain s then .plain
  else if allowsSingle s then .single
  else .double

end TextStyle

def blanks (n : Nat) : String := String.ofList (List.replicate n ' ')

/-- A text whose lines but the first are indented. Empty lines are not. -/
def indented (n : Nat) : List Char → List Char
  | [] => []
  | [c] => [c]
  | c :: d :: r =>
    if isBreak c && !isBreak d then c :: List.replicate n ' ' ++ indented n (d :: r)
    else c :: indented n (d :: r)

def singleQuoted (n : Nat) (s : List Char) : List Char :=
  let quoted := (s.flatMap fun c => if c = '\'' then ['\'', '\''] else [c]) ++ ['\'']
  '\'' :: indented n quoted

def hexDigits (width n : Nat) : List Char :=
  (List.range width).reverse.map fun i => (Nat.digitChar (n / Nat.pow 16 i % 16)).toUpper

/-- The characters that have short escapes. -/
def shortEscapes : List (Char × Char) :=
  [('\x00', '0'), ('\x07', 'a'), ('\x08', 'b'), ('\t', 't'), ('\n', 'n'), ('\x0b', 'v'), ('\x0c', 'f'),
   ('\r', 'r'), ('\x1b', 'e'), ('"', '"'), ('\\', '\\'), ('\u0085', 'N'), ('\u2028', 'L'), ('\u2029', 'P')]

def doubleQuotedChar (c : Char) : List Char :=
  match shortEscapes.lookup c with
  | some e => ['\\', e]
  | none =>
    if isPrintable c then [c]
    else if c.toNat < 0x100 then '\\' :: 'x' :: hexDigits 2 c.toNat
    else if c.toNat < 0x10000 then '\\' :: 'u' :: hexDigits 4 c.toNat
    else '\\' :: 'U' :: hexDigits 8 c.toNat

def doubleQuoted (s : List Char) : List Char := '"' :: s.flatMap doubleQuotedChar ++ ['"']

/-- What is said about the line ends at the end of a literal text: there is none, or all are kept. -/
def chomping (s : List Char) : List Char :=
  match s.reverse with
  | c :: r =>
    if !isBreak c then ['-']
    else if r.head?.all isBreak then ['+']
    else []
  | [] => ['-']

/-- A literal text. The width of its indentation is given where a blank or a line end comes first. -/
def literal (n : Nat) (s : List Char) : List Char :=
  let hint := if s.head?.any fun c => c == ' ' || isBreak c then ['2'] else []
  let ending := if s.getLast?.any isBreak then [] else ['\n']
  '|' :: hint ++ chomping s ++ indented n ('\n' :: s) ++ ending

/-- A text, up to a line end if it has to end with one. -/
def styled (n : Nat) (t : String) : String :=
  let s := t.toList
  match TextStyle.ofText t with
  | .plain => t
  | .single => String.ofList (singleQuoted n s)
  | .double => String.ofList (doubleQuoted s)
  | .literal => String.ofList (literal n s)

/-- A text up to the end of its last line. -/
def textLine (n : Nat) (t : String) : String :=
  styled n t ++ if TextStyle.ofText t = .literal then "" else "\n"

/-- Keys of one line and at most 128 bytes stand directly before their colon. -/
def isSimpleKey (k : String) : Bool := !k.toList.any isBreak && k.utf8ByteSize ≤ 128

/-- What precedes the value of a simple key: entries start on a line of their own, and those of a list are
not indented further. -/
def keyGap (n : Nat) : Json → String × Nat
  | .arr (_ :: _) => ("\n" ++ blanks n, n)
  | .obj (_ :: _) => ("\n" ++ blanks (n + 2), n + 2)
  | _ => (" ", n + 2)

mutual

/-- A value whose first line starts `n` characters in, up to the end of its last line. -/
def block (n : Nat) : Json → String
  | .null => "null\n"
  | .bool b => (if b then "true" else "false") ++ "\n"
  | .num x => x.text numberStyle ++ "\n"
  | .str s => textLine n s
  | .arr [] => "[]\n"
  | .obj [] => "\x7b\x7d\n"
  | .arr (v :: vs) => (blanks n).intercalate (blockItems n (v :: vs))
  | .obj (f :: fs) => (blanks n).intercalate (blockFields n (f :: fs))

def blockItems (n : Nat) : List Json → List String
  | [] => []
  | v :: vs => ("- " ++ block (n + 2) v) :: blockItems n vs

def blockFields (n : Nat) : List (String × Json) → List String
  | [] => []
  | (k, v) :: fs =>
    let entry :=
      if isSimpleKey k then
        let (gap, m) := keyGap n v
        styled n k ++ ":" ++ gap ++ block m v
      else "? " ++ textLine (n + 2) k ++ blanks n ++ ": " ++ block (n + 2) v
    entry :: blockFields n fs

end

/-- The document of a value. -/
def print (v : Json) : String := block 0 v

end RouteDocs.Yaml
