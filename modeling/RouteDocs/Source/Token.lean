namespace RouteDocs.Source

inductive Bracket where
  | round
  | square
  | curly
  deriving DecidableEq, Repr

/-- What a literal denotes, as far as it matters which file is well formed and what it documents. -/
inductive Literal where
  | text (value : String)
  /-- Digits in base ten and the suffix. The value is unbounded. -/
  | integer (value : Nat) (suffix : String)
  /-- As written: `x.0.1` reads its two field indices from here. -/
  | real (lexeme : String)
  | other
  deriving DecidableEq, Repr

/-- A token, or a bracketed group of them. `joint` marks a mark with another one directly after it. -/
inductive Token where
  | word (name : String)
  | mark (c : Char) (joint : Bool)
  | literal (value : Literal)
  | group (bracket : Bracket) (content : List Token)
  deriving Repr

mutual

/-- The number of tokens, those inside groups included. -/
def Token.size : Token → Nat
  | .group _ content => 2 + Token.sizeAll content
  | _ => 1

def Token.sizeAll : List Token → Nat
  | [] => 0
  | t :: ts => t.size + Token.sizeAll ts

end

end RouteDocs.Source
