import RouteDocs.Source.Grammar.Items
import RouteDocs.Source.Lexer

namespace RouteDocs.Source

/-- Drops a byte order mark. -/
def unmarked : List Char → List Char
  | '\ufeff' :: s => s
  | s => s

/-- Drops the line that names an interpreter. An attribute of the file starts the same way. -/
def withoutInterpreter (s : List Char) : List Char :=
  match s with
  | '#' :: '!' :: r =>
    match skipGaps r with
    | '[' :: _ => s
    | _ => s.dropWhile (· ≠ '\n')
  | _ => s

/-- No rule goes through more than four others before it takes a token. -/
def nestingBound (ts : List Token) : Nat := 4 * Token.sizeAll ts + 16

def items? (ts : List Token) : Option (List Item) := do
  let g := Grammar.ofDepth (nestingBound ts)
  let (items, rest) ← (do
    discard g.innerAttributes
    Parser.untilSees Look.nothing g.item : Parser (List Item)).run ts
  if rest.isEmpty then some items else none

/-- The items of a file, or `none` if there is an error anywhere in it. -/
def parse (text : String) : Option (List Item) := do
  let s := withoutInterpreter (unmarked text.toList)
  items? (← tokens? (unmarked s))

end RouteDocs.Source
