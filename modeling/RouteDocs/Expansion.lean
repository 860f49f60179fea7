import RouteDocs.Annotation

namespace RouteDocs

open Text

structure Expansion where
  annotation : Annotation
  isArray : Bool
  deriving DecidableEq, Repr

namespace Expansion

def summary (e : Expansion) : String := e.annotation.summary

def fields (e : Expansion) : List Field := e.annotation.params

/-- What stands before the last closing bracket of a line. -/
def upToLastClosing? (line : List Char) : Option (List Char) :=
  match line.reverse.dropWhile (· ≠ ']') with
  | _ :: before => some before.reverse
  | [] => none

/-- The text between the brackets: from the first opening bracket that has a closing one behind it on its
line, up to the last closing one there. -/
def bracketed? : List Char → Option (List Char)
  | [] => none
  | c :: s =>
    let here := if c = '[' then upToLastClosing? (s.takeWhile (· ≠ '\n')) else none
    here <|> bracketed? s

/-- The text between a second pair of brackets. -/
def nested? (inner : List Char) : Option (List Char) :=
  match inner with
  | '[' :: rest =>
    match rest.reverse with
    | ']' :: middle => some middle.reverse
    | _ => none
  | _ => none

/-- The description without the brackets and what is between them. -/
def around (inner description : List Char) : List Char :=
  match cut? ('[' :: inner ++ [']']) description with
  | some (before, after) => trim (before ++ after)
  | none => trim description

/-- A comment that says the same, with a tag for each part between commas. -/
def comment (summary inner : List Char) : List Char :=
  (if summary.isEmpty then [] else summary ++ ['\n']) ++
    ((pieces ',' inner).flatMap fun part => "@param ".toList ++ trim part ++ ['\n']) ++
    "@return void".toList

end Expansion

/-- The fields a description declares. One malformed field makes all of them void. -/
def expand (description : String) : Option Expansion := do
  let s := description.toList
  let inner ← Expansion.bracketed? s
  let nested := Expansion.nested? inner
  let text := Expansion.comment (Expansion.around inner s) (nested.getD inner)
  match Annotation.parseFields text with
  | .ok a => some ⟨a, nested.isSome⟩
  | .error _ => none

end RouteDocs
