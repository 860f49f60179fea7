import RouteDocs.Text.Basic
import RouteDocs.Text.Letter

namespace RouteDocs.StatusCode

open Text

def forReturn : String := "200"

def forThrows : String := "500"

/-- The mark at the front, with its number. Digits of any script count. -/
def markAtFront? (s : List Char) : Option (List Char × List Char) := do
  let rest ← "@code".toList.isPrefixOf? s
  let digits := (rest.dropWhile (· = ' ')).takeWhile isDecimalDigit
  if rest.head? = some ' ' && !digits.isEmpty then
    some ("@code".toList ++ rest.takeWhile (· = ' ') ++ digits, digits)
  else none

/-- The first mark. -/
def mark? : List Char → Option (List Char × List Char)
  | [] => none
  | c :: s => markAtFront? (c :: s) <|> mark? s

/-- The code of a description and the description without the mark, wherever the same mark occurs. -/
def extract (description default : String) : String × String :=
  match mark? description.toList with
  | some (mark, digits) =>
    (String.ofList digits, String.ofList (trim (without mark description.toList)))
  | none => (default, description)

end RouteDocs.StatusCode
