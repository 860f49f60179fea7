import RouteDocs.Text.Ranges

namespace RouteDocs.Text

/-- The 25 characters with the property White_Space. -/
def blankRanges : Ranges :=
  [(0x09, 0x0D), (0x20, 0x20), (0x85, 0x85), (0xA0, 0xA0), (0x1680, 0x1680), (0x2000, 0x200A),
   (0x2028, 0x2029), (0x202F, 0x202F), (0x205F, 0x205F), (0x3000, 0x3000)]

def isBlank (c : Char) : Bool := blankRanges.contains c

def trimStart (s : List Char) : List Char := s.dropWhile isBlank

def trimEnd (s : List Char) : List Char := (s.reverse.dropWhile isBlank).reverse

def trim (s : List Char) : List Char := trimEnd (trimStart s)

/-- The pieces between the separators, at least one. -/
def pieces (separator : Char) : List Char → List (List Char)
  | [] => [[]]
  | c :: s =>
    if c = separator then [] :: pieces separator s
    else
      match pieces separator s with
      | p :: ps => (c :: p) :: ps
      | [] => [[c]]

/-- A carriage return belongs to the line feed behind it, and only there. -/
def dropReturn (line : List Char) : List Char :=
  match line.reverse with
  | '\r' :: r => r.reverse
  | _ => line

/-- The lines of a text. A line feed ends a line, so nothing after the last one is no line. -/
def lines (s : List Char) : List (List Char) :=
  let ps := pieces '\n' s
  let ended := ps.dropLast.map dropReturn
  match ps.getLast? with
  | some [] | none => ended
  | some unended => ended ++ [unended]

/-- The first word and the rest, both without blanks around them. -/
def splitWord (s : List Char) : List Char × List Char :=
  let t := trim s
  (t.takeWhile (!isBlank ·), trim (t.dropWhile (!isBlank ·)))

def dropStart (start s : List Char) : List Char := (start.isPrefixOf? s).getD s

def dropEnd (ending s : List Char) : List Char := (ending.isSuffixOf? s).getD s

/-- What stands before and after the first occurrence of `part`. -/
def cut? (part : List Char) : List Char → Option (List Char × List Char)
  | [] => if part.isEmpty then some ([], []) else none
  | c :: s =>
    match part.isPrefixOf? (c :: s) with
    | some rest => some ([], rest)
    | none => (cut? part s).map fun (before, after) => (c :: before, after)

def containsText (part s : List Char) : Bool := (cut? part s).isSome

/-- Leaves out every occurrence of a nonempty `part`, from the left and without overlap. -/
def without (part : List Char) (s : List Char) : List Char :=
  go 0 s
where
  /-- The first argument counts the characters of an occurrence still to be left out. -/
  go : Nat → List Char → List Char
    | _, [] => []
    | n + 1, _ :: s => go n s
    | 0, c :: s => if part.isPrefixOf (c :: s) then go (part.length - 1) s else c :: go 0 s

/-- The part after the last character that satisfies `p`. -/
def afterLast (p : Char → Bool) (s : List Char) : List Char :=
  (s.reverse.takeWhile (!p ·)).reverse

end RouteDocs.Text
