import RouteDocs.Yaml.Character

namespace RouteDocs.Yaml

/-- What lies between two words: gaps on a line, line ends, or line ends of which the first is taken back. -/
inductive Between where
  | gaps (cs : List Char)
  | lines (breaks : List Char)
  | joined (breaks : List Char)
  deriving DecidableEq, Repr

/-- Only a line feed is folded. -/
def folded : List Char → List Char
  | ['\n'] => [' ']
  | '\n' :: breaks => breaks
  | breaks => breaks

namespace Between

def nothing : Between := .gaps []

/-- Gaps around line ends do not count. -/
def add (b : Between) (c : Char) : Between :=
  match b with
  | .gaps cs => if isBreak c then .lines [c] else .gaps (cs ++ [c])
  | .lines breaks => if isBreak c then .lines (breaks ++ [c]) else b
  | .joined breaks => if isBreak c then .joined (breaks ++ [c]) else b

def text : Between → List Char
  | .gaps cs => cs
  | .lines breaks => folded breaks
  | .joined breaks => breaks

def isLines : Between → Bool
  | .lines _ => true
  | _ => false

end Between

end RouteDocs.Yaml
