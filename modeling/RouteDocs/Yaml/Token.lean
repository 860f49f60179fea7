import RouteDocs.Yaml.Scalar
import RouteDocs.Yaml.Character

namespace RouteDocs.Yaml

/-- A tag as it is written: the handle stands for the start of the full tag. -/
structure TagName where
  handle : String
  ending : String
  deriving DecidableEq, Repr

inductive Token where
  /-- The directives at the head of a document: its version, and what a handle stands for. -/
  | version (major minor : Nat)
  | handle (name start : String)
  | documentStart
  | documentEnd
  /-- Collections that are set off by indentation. -/
  | openSequence
  | openMapping
  | closeBlock
  /-- Collections between brackets. -/
  | openList
  | closeList
  | openRecord
  | closeRecord
  | comma
  /-- An element of a collection follows, or one half of an entry. -/
  | item
  | key
  | value
  | alias (name : String)
  | anchor (name : String)
  | tag (name : TagName)
  | text (s : String) (plain : Bool)
  deriving DecidableEq, Repr

/-- The name of an anchor, which is not empty. -/
def anchorName? (s : List Char) : Option (String × List Char) :=
  let name := s.takeWhile isWordChar
  let rest := s.dropWhile isWordChar
  let ends := endsWord rest || rest.head?.any ("?:,]\x7d%@\x60".toList.contains ·)
  if !name.isEmpty && ends then some (String.ofList name, rest) else none

namespace TagName

def isUriChar (c : Char) : Bool := isWordChar c || ";/?:@&=+$.!~*'()".toList.contains c

/-- The bytes of a part of a URI, where `more` are the further characters that it may have. -/
def uriBytes? (more : List Char) : List Char → Option (List UInt8 × List Char)
  | '%' :: a :: b :: s => do
    let n ← Meaning.inBase? 16 [a, b]
    let (bytes, rest) ← uriBytes? more s
    some (n.toUInt8 :: bytes, rest)
  | [] => some ([], [])
  | c :: s =>
    if c = '%' then none
    else if isUriChar c || more.contains c then do
      let (bytes, rest) ← uriBytes? more s
      some ((String.singleton c).toUTF8.toList ++ bytes, rest)
    else some ([], c :: s)

def uri? (more s : List Char) : Option (String × List Char) := do
  let (bytes, rest) ← uriBytes? more s
  some (← String.fromUTF8? ⟨bytes.toArray⟩, rest)

def nonempty? (t : String × List Char) : Option (String × List Char) :=
  if t.1.isEmpty then none else some t

/-- The characters that a URI may have where no list can be meant. -/
def listChars : List Char := [',', '[', ']']

/-- A tag whose exclamation mark is taken: a full one between angle brackets, one with a handle of its own,
or one with the shortest handle. -/
def written? (s : List Char) : Option (TagName × List Char) :=
  match s with
  | '<' :: s => do
    let (uri, rest) ← (uri? listChars s).bind nonempty?
    match rest with
    | '>' :: rest => some (⟨"", uri⟩, rest)
    | _ => none
  | s =>
    let word := String.ofList (s.takeWhile isWordChar)
    match s.dropWhile isWordChar with
    | '!' :: s => do
      let (ending, rest) ← (uri? [] s).bind nonempty?
      some (⟨"!" ++ word ++ "!", ending⟩, rest)
    | s => do
      let (more, rest) ← uri? [] s
      let ending := word ++ more
      some (if ending.isEmpty then ⟨"", "!"⟩ else ⟨"!", ending⟩, rest)

/-- A tag, which a gap follows, or a comma in brackets. -/
def read? (inBrackets : Bool) (s : List Char) : Option (TagName × List Char) := do
  let (name, rest) ← written? s
  if endsWord rest || (inBrackets && rest.head? = some ',') then some (name, rest) else none

end TagName

namespace Directive

/-- A number of at most nine digits. -/
def number? (s : List Char) : Option (Nat × List Char) :=
  let digits := s.takeWhile Char.isDigit
  if digits.length ≤ 9 then
    (Meaning.inBase? 10 digits).map fun n => (n, s.dropWhile Char.isDigit)
  else none

def version? (s : List Char) : Option (Token × List Char) := do
  let (major, s) ← number? (s.dropWhile isGap)
  match s with
  | '.' :: s => (number? s).map fun (minor, rest) => (.version major minor, rest)
  | _ => none

/-- A handle, which ends with an exclamation mark as it starts with one. -/
def handle? (s : List Char) : Option (String × List Char) :=
  match s with
  | '!' :: s =>
    let word := s.takeWhile isWordChar
    match s.dropWhile isWordChar with
    | '!' :: rest => some ("!" ++ String.ofList word ++ "!", rest)
    | rest => if word.isEmpty then some ("!", rest) else none
  | _ => none

def tag? (s : List Char) : Option (Token × List Char) := do
  let (name, s) ← handle? (s.dropWhile isGap)
  if !s.head?.any isGap then none
  let (start, rest) ← (TagName.uri? TagName.listChars (s.dropWhile isGap)).bind TagName.nonempty?
  if endsWord rest then some (.handle name start, rest) else none

/-- A directive whose percent sign is taken, up to the end of its line. There are two kinds. -/
def read? (s : List Char) : Option (Token × List Char) := do
  let name := s.takeWhile isWordChar
  let s := s.dropWhile isWordChar
  if !endsWord s then none
  let (t, s) ←
    if name = "YAML".toList then version? s
    else if name = "TAG".toList then tag? s
    else none
  some (t, ← restOfLine? s)

end Directive

end RouteDocs.Yaml
