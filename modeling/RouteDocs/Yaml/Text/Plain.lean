import RouteDocs.Yaml.Text.Folding

namespace RouteDocs.Yaml.Plain

/-- Where a text stands: whether in brackets, and at which column its further lines have to start. -/
structure Place where
  inBrackets : Bool
  margin : Nat

/-- Whether a text ends before its next word, which stands in the given column. -/
def endsBefore (p : Place) (column : Nat) (b : Between) (s : List Char) : Bool :=
  (b.isLines && !p.inBrackets && column < p.margin) || (column = 0 && isDocumentMark s) ||
    (b ≠ .nothing && s.head? = some '#')

/-- Whether a text ends within a line: at a colon that makes a key of it, or at a bracket or comma. -/
def endsAt (p : Place) : List Char → Bool
  | ':' :: s => endsWord s
  | c :: _ => p.inBrackets && [',', '[', ']', '{', '}'].contains c
  | [] => true

/-- In brackets a colon is no part of a text before another mark. -/
def isMisplacedColon (p : Place) : List Char → Bool
  | ':' :: c :: _ => p.inBrackets && [',', '?', '[', ']', '{', '}'].contains c
  | _ => false

/-- The text, where `b` lies before its next word. Whether a line end has been passed behind its last word
is told too. -/
def read? (p : Place) (column : Nat) (b : Between) : List Char → Option (List Char × Bool × List Char)
  | [] => some ([], b.isLines, [])
  | c :: s =>
    if isBreak c then read? p 0 (b.add c) s
    else if isGap c then
      if b.isLines && column < p.margin && c = '\t' then none else read? p (column + 1) (b.add c) s
    else if endsBefore p column b (c :: s) then some ([], b.isLines, c :: s)
    else if isMisplacedColon p (c :: s) then none
    else if endsAt p (c :: s) then some ([], b.isLines, c :: s)
    else (read? p (column + 1) .nothing s).map fun (t, passed, rest) => (b.text ++ c :: t, passed, rest)

end RouteDocs.Yaml.Plain
