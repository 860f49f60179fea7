import RouteDocs.Source.Token

namespace RouteDocs.Source

abbrev Look := List Token → Bool

/-- Words that cannot be names. -/
def reserved : List String :=
  ["_", "abstract", "as", "async", "await", "become", "box", "break", "const", "continue", "crate", "do",
   "dyn", "else", "enum", "extern", "false", "final", "fn", "for", "if", "impl", "in", "let", "loop",
   "macro", "match", "mod", "move", "mut", "override", "priv", "pub", "ref", "return", "Self", "self",
   "static", "struct", "super", "trait", "true", "try", "type", "typeof", "unsafe", "unsized", "use",
   "virtual", "where", "while", "yield"]

namespace Look

def word (w : String) : Look
  | .word v :: _ => v == w
  | _ => false

def anyWord : Look
  | .word _ :: _ => true
  | _ => false

def name : Look
  | .word v :: _ => !reserved.contains v
  | _ => false

/-- Marks that are written without a gap. A further mark may follow the last one. -/
def marks (m : String) : Look := go m.toList
where
  go : List Char → Look
    | [c], .mark d _ :: _ => c == d
    | c :: cs, .mark d joint :: ts => c == d && joint && go cs ts
    | _, _ => false

def group (b : Bracket) : Look
  | .group b' _ :: _ => b == b'
  | _ => false

/-- A lifetime or a loop label. -/
def lifetime : Look
  | .mark '\'' _ :: .word _ :: _ => true
  | _ => false

/-- A literal, also a truth value and a negative number. -/
def literal : Look
  | .literal _ :: _ => true
  | .mark '-' _ :: .literal (.integer ..) :: _ => true
  | .mark '-' _ :: .literal (.real _) :: _ => true
  | ts => word "true" ts || word "false" ts

def textLiteral : Look
  | .literal (.text _) :: _ => true
  | _ => false

def nothing : Look := List.isEmpty

def any (looks : List Look) : Look := fun ts => looks.any (· ts)

/-- One of several spellings, marks if it starts with one. -/
def oneOf (spellings : List String) : Look := any (spellings.map fun s =>
  if s.toList.any (fun c => c.isAlpha || c == '_') then word s else marks s)

/-- The first look holds and the second does not. -/
def butNot (look other : Look) : Look := fun ts => look ts && !other ts

def both (look other : Look) : Look := fun ts => look ts && other ts

/-- What follows the first token. A lifetime counts as one. -/
def dropOne : List Token → List Token
  | .mark '\'' _ :: .word _ :: ts => ts
  | _ :: ts => ts
  | [] => []

def second (look : Look) : Look := fun ts => look (dropOne ts)

def third (look : Look) : Look := fun ts => look (dropOne (dropOne ts))

/-- Words that start a path although they are no names. -/
def pathWord : Look := oneOf ["super", "self", "Self", "crate"]

end Look

/-- What a parser leaves ends the tokens that it was given. -/
structure Parser (α : Type) where
  run : List Token → Option (α × List Token)
  leaves_suffix : ∀ {ts a rest}, run ts = some (a, rest) → rest <:+ ts

namespace Parser

protected def pure (a : α) : Parser α where
  run ts := some (a, ts)
  leaves_suffix h := by
    cases h
    exact List.suffix_refl _

protected def bind (x : Parser α) (f : α → Parser β) : Parser β where
  run ts := (x.run ts).bind fun (a, middle) => (f a).run middle
  leaves_suffix h := by
    obtain ⟨⟨a, middle⟩, hx, hf⟩ := Option.bind_eq_some_iff.1 h
    exact ((f a).leaves_suffix hf).trans (x.leaves_suffix hx)

protected def fail : Parser α where
  run _ := none
  leaves_suffix h := nomatch h

/-- Runs the other parser where the first one fails. -/
protected def orElse (x : Parser α) (y : Unit → Parser α) : Parser α where
  run ts := x.run ts <|> (y ()).run ts
  leaves_suffix {ts a rest} h := by
    obtain hx | ⟨-, hy⟩ := Option.or_eq_some_iff.1 ((Option.orElse_eq_or ..).symm.trans h)
    · exact x.leaves_suffix hx
    · exact (y ()).leaves_suffix hy

instance : Monad Parser where
  pure := Parser.pure
  bind := Parser.bind

instance : Alternative Parser where
  failure := Parser.fail
  orElse := Parser.orElse

/-- The tokens ahead. None of them is taken. -/
def ahead : Parser (List Token) where
  run ts := some (ts, ts)
  leaves_suffix h := by
    cases h
    exact List.suffix_refl _

def sees (look : Look) : Parser Bool := do return look (← ahead)

def require (look : Look) : Parser Unit := do
  if ← sees look then pure () else failure

/-- Fails where the look holds. -/
def refuse (look : Look) : Parser Unit := do
  if ← sees look then failure

def dropTokens (n : Nat) : Parser Unit where
  run ts := some ((), ts.drop n)
  leaves_suffix h := by
    cases h
    exact List.drop_suffix n _

def word (w : String) : Parser Unit := do
  require (Look.word w)
  dropTokens 1

def marks (m : String) : Parser Unit := do
  require (Look.marks m)
  dropTokens m.length

def anyWord : Parser String where
  run
    | .word v :: ts => some (v, ts)
    | _ => none
  leaves_suffix h := by
    split at h
    · cases h
      exact List.suffix_cons _ _
    · cases h

def name : Parser String := do
  require Look.name
  anyWord

def lifetime : Parser Unit := do
  require Look.lifetime
  dropTokens 2

def literal : Parser Unit := do
  require Look.literal
  if ← sees (Look.marks "-") then dropTokens 2 else dropTokens 1

/-- Takes the word if it is there. -/
def word? (w : String) : Parser Bool := do
  if ← sees (Look.word w) then dropTokens 1; return true else return false

def marks? (m : String) : Parser Bool := do
  if ← sees (Look.marks m) then dropTokens m.length; return true else return false

def lifetime? : Parser Bool := do
  if ← sees Look.lifetime then lifetime; return true else return false

/-- Runs the parser where the look holds. -/
def whenSees (look : Look) (p : Parser α) : Parser Unit := do
  if ← sees look then discard p

/-- Takes a group whose whole content the parser accepts. -/
def inGroup (b : Bracket) (p : Parser α) : Parser α where
  run
    | .group b' content :: ts =>
      if b = b' then
        match p.run content with
        | some (a, []) => some (a, ts)
        | _ => none
      else none
    | _ => none
  leaves_suffix h := by
    split at h
    · split at h
      · split at h
        · cases h
          exact List.suffix_cons _ _
        · cases h
      · cases h
    · cases h

/-- Takes a group of any content. -/
def anyGroup : Parser Bracket where
  run
    | .group b _ :: ts => some (b, ts)
    | _ => none
  leaves_suffix h := by
    split at h
    · cases h
      exact List.suffix_cons _ _
    · cases h

/-- Repeats a parser while the look holds. The bound on the rounds is the number of tokens ahead. -/
def whileSees (look : Look) (p : Parser α) : Parser (List α) := do
  go (← ahead).length
where
  go : Nat → Parser (List α)
    | 0 => return []
    | n + 1 => do
      if ← sees look then
        let a ← p
        return a :: (← go n)
      else return []

/-- Repeats a parser until the look holds. -/
def untilSees (look : Look) (p : Parser α) : Parser (List α) := whileSees (!look ·) p

/-- Elements between separators up to the look, with or without a separator after the last one. -/
def separated (separator : String) (stop : Look) (element : Parser α) : Parser (List α) := do
  go ((← ahead).length + 1)
where
  go : Nat → Parser (List α)
    | 0 => failure
    | n + 1 => do
      if ← sees stop then return []
      let a ← element
      if ← marks? separator then return a :: (← go n) else return [a]

/-- Repeats a step on a value until it answers none. -/
def iterate (step : α → Parser (Option α)) (a : α) : Parser α := do
  go ((← ahead).length + 1) a
where
  go : Nat → α → Parser α
    | 0, _ => failure
    | n + 1, a => do
      match ← step a with
      | some b => go n b
      | none => return a

/-- The list in a group, its elements separated by commas. -/
def listIn (b : Bracket) (element : Parser α) : Parser (List α) :=
  inGroup b (separated "," Look.nothing element)

/-- Whether the last token the parser takes is a group in curly brackets. -/
def endsInBrace (p : Parser α) : Parser (α × Bool) := do
  let before ← ahead
  let a ← p
  let taken := before.take (before.length - (← ahead).length)
  return (a, match taken.getLast? with
    | some (.group .curly _) => true
    | _ => false)

end Parser

end RouteDocs.Source
