import RouteDocs.Decimal

namespace RouteDocs.Yaml

inductive Meaning where
  | null
  | bool (b : Bool)
  | int (n : Int)
  | float (x : Float)
  | text
  deriving Repr

namespace Meaning

def isNull (s : String) : Bool := ["null", "Null", "NULL", "~"].contains s

def bool? (s : String) : Option Bool :=
  if ["true", "True", "TRUE"].contains s then some true
  else if ["false", "False", "FALSE"].contains s then some false
  else none

/-- Digits behind a zero make no number. -/
def hasLeadingZero (s : List Char) : Bool :=
  let unsigned :=
    match s with
    | '-' :: r | '+' :: r => r
    | _ => s
  match unsigned with
  | '0' :: c :: r => (c :: r).all Char.isDigit
  | _ => false

def digit? (base : Nat) (c : Char) : Option Nat :=
  let value :=
    if c.isDigit then c.toNat - '0'.toNat
    else if 'a' ≤ c && c ≤ 'z' then c.toNat - 'a'.toNat + 10
    else if 'A' ≤ c && c ≤ 'Z' then c.toNat - 'A'.toNat + 10
    else base
  if value < base then some value else none

def inBase? (base : Nat) (s : List Char) : Option Nat :=
  if s.isEmpty then none else s.foldlM (fun n c => (digit? base c).map (base * n + ·)) 0

/-- A natural number without a sign, in base ten unless it says otherwise. -/
def natural? : List Char → Option Nat
  | '0' :: 'x' :: s => inBase? 16 s
  | '0' :: 'o' :: s => inBase? 8 s
  | '0' :: 'b' :: s => inBase? 2 s
  | s => if hasLeadingZero s then none else inBase? 10 s

/-- Whole numbers have at most 128 bits, the larger ones are floating-point numbers. -/
def int? (s : String) : Option Int :=
  match s.toList with
  | '-' :: r => do
    let n ← natural? r
    if n ≤ Nat.pow 2 127 then some (-(n : Int)) else none
  | '+' :: r | r => do
    let n ← natural? r
    if n < Nat.pow 2 128 then some (n : Int) else none

/-- The exponent of a number, if there is one. -/
def exponent? : List Char → Option Int
  | [] => some 0
  | e :: s =>
    if e = 'e' || e = 'E' then
      match s with
      | '-' :: r => (inBase? 10 r).map fun n => -(n : Int)
      | '+' :: r | r => (inBase? 10 r).map Int.ofNat
    else none

/-- A number without a sign. It has a digit before or behind the point. -/
def magnitude? (s : List Char) : Option Float := do
  let whole := s.takeWhile Char.isDigit
  let rest := s.dropWhile Char.isDigit
  let (fraction, rest) :=
    match rest with
    | '.' :: r => (r.takeWhile Char.isDigit, r.dropWhile Char.isDigit)
    | _ => ([], rest)
  let n ← inBase? 10 (whole ++ fraction)
  let e ← exponent? rest
  Decimal.nearest? n (e - fraction.length)

def float? (s : String) : Option Float :=
  if [".inf", ".Inf", ".INF", "+.inf", "+.Inf", "+.INF"].contains s then some (1 / 0)
  else if ["-.inf", "-.Inf", "-.INF"].contains s then some (-1 / 0)
  else if [".nan", ".NaN", ".NAN"].contains s then some (0 / 0)
  else
    match s.toList with
    | '-' :: r => (magnitude? r).map (- ·)
    | '+' :: r | r => magnitude? r

/-- The meaning of a plain scalar without a tag. -/
def ofPlain (s : String) : Meaning :=
  if s.isEmpty || isNull s then .null
  else
    match bool? s, int? s with
    | some b, _ => .bool b
    | none, some n => .int n
    | none, none =>
      if hasLeadingZero s.toList then .text
      else
        match float? s with
        | some x => .float x
        | none => .text

/-- Whether a plain scalar is read back as its own text. -/
def isText (s : String) : Bool :=
  match ofPlain s with
  | .text => true
  | _ => false

end Meaning

end RouteDocs.Yaml
