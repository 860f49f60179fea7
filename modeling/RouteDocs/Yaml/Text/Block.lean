import RouteDocs.Yaml.Text.Folding

namespace RouteDocs.Yaml.BlockText

/-- What becomes of the line ends at the end of a text. -/
inductive Chomping where
  | strip
  | clip
  | keep
  deriving DecidableEq, Repr

/-- How a block is set. The indentation may be given relative to what is around the block. -/
structure Header where
  literal : Bool
  chomping : Chomping
  indentation : Option Nat

def chomping? : List Char → Option (Chomping × List Char)
  | '-' :: s => some (.strip, s)
  | '+' :: s => some (.keep, s)
  | _ => none

/-- A digit that gives an indentation, which is never zero. -/
def indentation? : List Char → Option (Option Nat × List Char)
  | [] => some (none, [])
  | c :: s =>
    if c = '0' then none
    else if c.isDigit then some (some (c.toNat - '0'.toNat), s)
    else some (none, c :: s)

/-- The rest of the line behind the mark. -/
def header? (literal : Bool) (s : List Char) : Option (Header × List Char) :=
  match chomping? s with
  | some (chomping, s) => do
    let (indentation, s) ← indentation? s
    some (⟨literal, chomping, indentation⟩, ← restOfLine? s)
  | none => do
    let (indentation, s) ← indentation? s
    let (chomping, s) := ((if indentation.isSome then chomping? s else none).getD (.clip, s))
    some (⟨literal, chomping, indentation⟩, ← restOfLine? s)

/-- Blank lines, with the column where the text goes on. -/
structure Gap where
  breaks : List Char
  /-- The most blanks on a line. -/
  widest : Nat
  column : Nat
  rest : List Char

/-- Blank lines at the front. Blanks count as indentation up to the given column, if it is known, and tabs
never do. -/
def gap? (margin : Option Nat) (column widest : Nat) : List Char → Option Gap
  | [] => some ⟨[], max widest column, column, []⟩
  | c :: s =>
    let within := margin.all (column < ·)
    if c = ' ' && within then gap? margin (column + 1) widest s
    else if c = '\t' && within then none
    else if isBreak c then
      (gap? margin 0 (max widest column) s).map fun g => { g with breaks := c :: g.breaks }
    else some ⟨[], max widest column, column, c :: s⟩

/-- A line of text with its line end, and the ends of the blank lines below it. -/
structure Line where
  text : List Char
  ending : List Char
  blank : List Char

/-- The lines that start at the margin. There are no more of them than characters. -/
def lines? (margin : Nat) : Nat → Nat → List Char → Option (List Line × List Char)
  | 0, _, s => some ([], s)
  | n + 1, column, s =>
    if column = margin && !s.isEmpty then do
      let rest := s.dropWhile (!isBreak ·)
      let g ← gap? (some margin) 0 0 (rest.drop 1)
      let (ls, rest') ← lines? margin n g.column g.rest
      some (⟨s.takeWhile (!isBreak ·), rest.take 1, g.breaks⟩ :: ls, rest')
    else some ([], s)

def Line.startsWithGap (l : Line) : Bool := l.text.head?.any isGap

/-- What a line end between two lines counts as. Lines that start with a gap are not folded. -/
def Line.before (literal : Bool) (l m : Line) : List Char :=
  if !literal && l.ending = ['\n'] && !l.startsWithGap && !m.startsWithGap then
    folded (l.ending ++ l.blank)
  else l.ending ++ l.blank

def joined (literal : Bool) : List Line → List Char
  | [] => []
  | [l] => l.text
  | l :: m :: ls => l.text ++ l.before literal m ++ joined literal (m :: ls)

/-- What the line ends behind the last line of text count as. -/
def Chomping.tail (c : Chomping) (ending blank : List Char) : List Char :=
  match c with
  | .strip => []
  | .clip => ending
  | .keep => ending ++ blank

/-- The text of a block inside of a block that starts in column `outer`, or in none. -/
def text? (literal : Bool) (outer : Option Nat) (s : List Char) : Option (String × List Char) := do
  let (h, s) ← header? literal s
  let least := (outer.map (· + 1)).getD 0
  let given := h.indentation.map ((outer.getD 0) + ·)
  let g ← gap? given 0 0 s
  let margin := given.getD (max (max g.widest least) 1)
  let (ls, rest) ← lines? margin (g.rest.length + 1) g.column g.rest
  let text :=
    match ls.getLast? with
    | some l => g.breaks ++ joined literal ls ++ h.chomping.tail l.ending l.blank
    | none => h.chomping.tail [] g.breaks
  some (String.ofList text, rest)

end RouteDocs.Yaml.BlockText
