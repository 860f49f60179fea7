namespace RouteDocs.Yaml

/-- The characters that end a line. -/
def isBreak (c : Char) : Bool :=
  c == '\n' || c == '\r' || c == '\u0085' || c == '\u2028' || c == '\u2029'

def isGap (c : Char) : Bool := c == ' ' || c == '\t'

/-- The characters that can be written as they are. -/
def isPrintable (c : Char) : Bool :=
  c == '\n' || (' ' ≤ c && c ≤ '~') ||
    ('\u00a0' ≤ c && c ≠ '\ufeff' && c ≠ '\ufffe' && c ≠ '\uffff')

/-- The characters that may stand in a stream. -/
def isAllowed (c : Char) : Bool :=
  c == '\t' || c == '\n' || c == '\r' || c == '\u0085' || (' ' ≤ c && c ≤ '~') ||
    ('\u00a0' ≤ c && c ≠ '\ufffe' && c ≠ '\uffff')

/-- The characters of which the names of anchors and handles are made. -/
def isWordChar (c : Char) : Bool := c.isAlphanum || c == '_' || c == '-'

/-- Whether a text ends here, or a gap or a line end follows. -/
def endsWord : List Char → Bool
  | [] => true
  | c :: _ => isGap c || isBreak c

/-- Three hyphens or three dots at the start of a line, which separate documents. -/
def isDocumentMark : List Char → Bool
  | '-' :: '-' :: '-' :: s | '.' :: '.' :: '.' :: s => endsWord s
  | _ => false

/-- The rest of a line behind its last word. There may be a comment, and the line end is taken. -/
def restOfLine? (s : List Char) : Option (List Char) :=
  let s := s.dropWhile isGap
  let s := if s.head? = some '#' then s.dropWhile (!isBreak ·) else s
  match s with
  | [] => some []
  | c :: r => if isBreak c then some r else none

/-- One character for each line end. -/
def oneBreakEach : List Char → List Char
  | '\r' :: '\n' :: s => '\n' :: oneBreakEach s
  | c :: s => (if c = '\r' || c = '\u0085' then '\n' else c) :: oneBreakEach s
  | [] => []

end RouteDocs.Yaml
