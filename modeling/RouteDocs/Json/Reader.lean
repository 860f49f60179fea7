import RouteDocs.Decimal
import RouteDocs.Json.Basic

namespace RouteDocs.Json

/-- What a well-formed text says. A text or a number is `none` if it has no value. Only a part that somebody
asks for has to have one, so the rest may hold half a pair of surrogates, or a number out of range. -/
inductive Reading where
  | null
  | bool (b : Bool)
  | num (n : Option Number)
  | str (s : Option String)
  | arr (elements : List Reading)
  | obj (fields : List (Option String × Reading))
  deriving Inhabited

namespace Reading

/-- Whole numbers that fit into 64 bits. -/
def fits (n : Nat) : Bool := n < Nat.pow 2 64

/-- There are powers of ten up to `10 ^ 308`. -/
def powerOfTen (e : Nat) : Float := (Decimal.nearest? 1 e).getD 1

/-- Divides by a power of ten, in steps that the range of numbers allows. -/
def scaledDown (x : Float) (e : Nat) : Float :=
  if e ≤ 308 then x / powerOfTen e
  else if x == 0 then x
  else scaledDown (x / powerOfTen 308) (e - 308)
termination_by e

/-- The digits times a power of ten, in floating-point arithmetic. There is none beyond the range. -/
def scaled (significand : Nat) (e : Int) : Option Float :=
  let x := significand.toUInt64.toFloat
  if e < 0 then some (scaledDown x e.natAbs)
  else if e ≤ 308 then
    let y := x * powerOfTen e.natAbs
    if y.isInf then none else some y
  else if x == 0 then some x
  else none

def digitValue (c : Char) : Nat := c.toNat - '0'.toNat

/-- Takes in digits while the result fits. The rest of the digits is dropped. -/
def takenIn (significand : Nat) : List Char → Nat × List Char
  | [] => (significand, [])
  | c :: cs =>
    let next := 10 * significand + digitValue c
    if fits next then takenIn next cs else (significand, c :: cs)

def naturalOf (digits : List Char) : Nat := digits.foldl (fun n c => 10 * n + digitValue c) 0

/-- The value of a number from the digits before the point, those behind it and the exponent. -/
def numberOf (negative : Bool) (whole : List Char) (fraction : Option (List Char))
    (exponent : Option (Bool × List Char)) : Option Number :=
  let (significand, dropped) := takenIn 0 whole
  let sign := fun x : Float => Number.float (if negative then -x else x)
  if fraction.isNone && exponent.isNone && dropped.isEmpty then
    if !negative then some (.int significand)
    else if significand = 0 || Nat.pow 2 63 < significand then some (sign significand.toUInt64.toFloat)
    else some (.int (-significand))
  else
    let digits := fraction.getD []
    let (significand, unused) := takenIn significand digits
    let e : Int := dropped.length - (digits.length - unused.length : Nat)
    match exponent with
    | none => (scaled significand e).map sign
    | some (below, ds) =>
      let n := naturalOf ds
      if Nat.pow 2 31 ≤ n then
        if significand = 0 || below then some (sign 0) else none
      else (scaled significand (if below then e - n else e + n)).map sign

/-- A number at the front. -/
def number? (s : List Char) : Option (Option Number × List Char) := do
  let (negative, s) :=
    match s with
    | '-' :: r => (true, r)
    | _ => (false, s)
  let whole := s.takeWhile Char.isDigit
  let s := s.dropWhile Char.isDigit
  if whole.isEmpty || (whole.head? = some '0' && whole.length > 1) then none
  else
    let (fraction, s) ←
      match s with
      | '.' :: r =>
        let digits := r.takeWhile Char.isDigit
        if digits.isEmpty then none else some (some digits, r.dropWhile Char.isDigit)
      | _ => some (none, s)
    let (exponent, s) ←
      match s with
      | c :: r =>
        if c = 'e' || c = 'E' then
          let (below, r) :=
            match r with
            | '+' :: r => (false, r)
            | '-' :: r => (true, r)
            | _ => (false, r)
          let digits := r.takeWhile Char.isDigit
          if digits.isEmpty then none else some (some (below, digits), r.dropWhile Char.isDigit)
        else some (none, s)
      | [] => some (none, s)
    some (numberOf negative whole fraction exponent, s)

def hexDigit? (c : Char) : Option Nat :=
  if c.isDigit then some (digitValue c)
  else if 'a' ≤ c && c ≤ 'f' then some (c.toNat - 'a'.toNat + 10)
  else if 'A' ≤ c && c ≤ 'F' then some (c.toNat - 'A'.toNat + 10)
  else none

/-- The content of a text as a sequence of code units, those of characters beyond 16 bits left whole. -/
def units? : List Char → Option (List Nat × List Char)
  | '"' :: s => some ([], s)
  | '\\' :: 'u' :: a :: b :: c :: d :: s => do
    let n := 4096 * (← hexDigit? a) + 256 * (← hexDigit? b) + 16 * (← hexDigit? c) + (← hexDigit? d)
    let (us, rest) ← units? s
    some (n :: us, rest)
  | '\\' :: c :: s => do
    let n ← [('"', '"'), ('\\', '\\'), ('/', '/'), ('b', '\x08'), ('f', '\x0c'), ('n', '\n'), ('r', '\r'),
      ('t', '\t')].lookup c
    let (us, rest) ← units? s
    some (n.toNat :: us, rest)
  | c :: s =>
    if c.toNat < 0x20 then none
    else (units? s).map fun (us, rest) => (c.toNat :: us, rest)
  | [] => none

/-- Joins pairs of surrogates. Half a pair is no character. -/
def joined? : List Nat → Option (List Char)
  | [] => some []
  | u :: us =>
    if 0xD800 ≤ u && u < 0xDC00 then
      match us with
      | v :: us =>
        if 0xDC00 ≤ v && v < 0xE000 then
          (joined? us).map (Char.ofNat (0x10000 + 0x400 * (u - 0xD800) + (v - 0xDC00)) :: ·)
        else none
      | [] => none
    else if 0xDC00 ≤ u && u < 0xE000 then none
    else (joined? us).map (Char.ofNat u :: ·)

/-- A text whose opening quote is taken. -/
def quoted? (s : List Char) : Option (Option String × List Char) :=
  (units? s).map fun (us, rest) => ((joined? us).map String.ofList, rest)

def isGap (c : Char) : Bool := c == ' ' || c == '\n' || c == '\t' || c == '\r'

def skipGaps (s : List Char) : List Char := s.dropWhile isGap

mutual

/-- A value at the front. Each call takes at least one character, so their number bounds the calls. -/
def value? : Nat → List Char → Option (Reading × List Char)
  | 0, _ => none
  | n + 1, s =>
    match skipGaps s with
    | 'n' :: 'u' :: 'l' :: 'l' :: r => some (.null, r)
    | 't' :: 'r' :: 'u' :: 'e' :: r => some (.bool true, r)
    | 'f' :: 'a' :: 'l' :: 's' :: 'e' :: r => some (.bool false, r)
    | '"' :: r => (quoted? r).map fun (t, rest) => (.str t, rest)
    | '[' :: r =>
      match skipGaps r with
      | ']' :: rest => some (.arr [], rest)
      | r => (elements? n r).map fun (vs, rest) => (.arr vs, rest)
    | '{' :: r =>
      match skipGaps r with
      | '}' :: rest => some (.obj [], rest)
      | r => (fields? n r).map fun (fs, rest) => (.obj fs, rest)
    | r => (number? r).map fun (x, rest) => (.num x, rest)

/-- The elements up to the closing bracket. -/
def elements? : Nat → List Char → Option (List Reading × List Char)
  | 0, _ => none
  | n + 1, s => do
    let (v, s) ← value? n s
    match skipGaps s with
    | ',' :: r =>
      let (vs, rest) ← elements? n r
      some (v :: vs, rest)
    | ']' :: rest => some ([v], rest)
    | _ => none

/-- The fields up to the closing bracket. -/
def fields? : Nat → List Char → Option (List (Option String × Reading) × List Char)
  | 0, _ => none
  | n + 1, s => do
    match skipGaps s with
    | '"' :: r =>
      let (k, r) ← quoted? r
      match skipGaps r with
      | ':' :: r =>
        let (v, r) ← value? n r
        match skipGaps r with
        | ',' :: r =>
          let (fs, rest) ← fields? n r
          some ((k, v) :: fs, rest)
        | '}' :: rest => some ([(k, v)], rest)
        | _ => none
      | _ => none
    | _ => none

end

/-- What a text says, if it is well formed. -/
def ofText? (text : String) : Option Reading := do
  let s := text.toList
  let (v, rest) ← value? (s.length + 1) s
  if (skipGaps rest).isEmpty then some v else none

mutual

/-- The value of what a text says. The number is how many levels of brackets may be nested. -/
def toJson? (levels : Nat) : Reading → Option Json
  | .null => some .null
  | .bool b => some (.bool b)
  | .num n => n.map .num
  | .str s => s.map .str
  | .arr elements => do
    if levels = 0 then none
    some (.arr (← elementsToJson? (levels - 1) elements))
  | .obj fields => do
    if levels = 0 then none
    some (.ofFields (← fieldsToJson? (levels - 1) fields))

def elementsToJson? (levels : Nat) : List Reading → Option (List Json)
  | [] => some []
  | v :: vs => do some ((← v.toJson? levels) :: (← elementsToJson? levels vs))

def fieldsToJson? (levels : Nat) : List (Option String × Reading) → Option (List (String × Json))
  | [] => some []
  | (k, v) :: fs => do some ((← k, ← v.toJson? levels) :: (← fieldsToJson? levels fs))

end

end Reading

/-- At most this many levels of brackets make a value. -/
def maxLevels : Nat := 127

/-- The value a text stands for. -/
def ofText? (text : String) : Option Json := do (← Reading.ofText? text).toJson? maxLevels

end RouteDocs.Json
