namespace RouteDocs.Decimal

/-- A positive number `significand * 2 ^ exponent`, with all that is nearer to it than to its neighbours.
At a power of two the neighbour below is only half as far away as the one above. -/
structure Binary where
  significand : Nat
  exponent : Int
  atPower : Bool

/-- The magnitude of a finite number that is not zero. -/
def Binary.ofBits (bits : Nat) : Binary :=
  let fraction := bits % Nat.pow 2 52
  let field : Nat := bits / Nat.pow 2 52 % Nat.pow 2 11
  if field = 0 then ⟨fraction, -1074, false⟩
  else ⟨fraction + Nat.pow 2 52, (field : Int) - 1075, fraction == 0 && field != 1⟩

/-- The digits `d` and the exponent `e` of a decimal `d * 10 ^ e`. -/
structure Digits where
  digits : Nat
  exponent : Int
  deriving DecidableEq, Repr

def digitCount (n : Nat) : Nat := (Nat.toDigits 10 n).length

/-- The decimal on the grid of the multiples of `10 ^ g` that is nearest to the number, if it reads back as
the number. A tie goes to the even digit. -/
def Binary.onGrid (b : Binary) (g : Int) : Option Digits :=
  -- All lengths are counted in quarters of the distance to the next number.
  let e := b.exponent - 2
  let unit := Nat.pow 2 e.toNat * Nat.pow 10 (-g).toNat
  let step := Nat.pow 2 (-e).toNat * Nat.pow 10 g.toNat
  let value := 4 * b.significand * unit
  let low := (4 * b.significand - if b.atPower then 1 else 2) * unit
  let high := (4 * b.significand + 2) * unit
  let inside := fun n : Nat =>
    if b.significand % 2 = 0 then low ≤ n && n ≤ high else low < n && n < high
  let d := value / step
  let below := d * step
  let above := below + step
  let nearer :=
    if value - below < above - value then d
    else if above - value < value - below then d + 1
    else d + d % 2
  if inside (nearer * step) then some ⟨nearer, g⟩
  else if inside below then some ⟨d, g⟩
  else if inside above then some ⟨d + 1, g⟩
  else none

/-- The exponent of the first decimal digit. -/
def Binary.magnitude (b : Binary) : Int :=
  let num := b.significand * Nat.pow 2 b.exponent.toNat
  let den := Nat.pow 2 (-b.exponent).toNat
  if den ≤ num then digitCount (num / den) - 1 else -(digitCount (den / num) : Int)

/-- Of the decimals that are nearest to no other number, those with the fewest digits, and of these the
nearest. Seventeen digits are always enough. -/
def Binary.shortest (b : Binary) : Digits :=
  ((List.range 17).findSome? fun (n : Nat) => b.onGrid (b.magnitude - n)).getD ⟨b.significand, 0⟩

/-- Leaves out the zeros at the end. -/
def Digits.stripped (d : Digits) : Digits :=
  go d.digits d.digits d.exponent
where
  go : Nat → Nat → Int → Digits
    | 0, n, e => ⟨n, e⟩
    | fuel + 1, n, e => if n % 10 = 0 && n ≠ 0 then go fuel (n / 10) (e + 1) else ⟨n, e⟩

/-- How a format writes a number. -/
structure Style where
  /-- The exponents of the first digit from which and up to which no exponent is written. -/
  lowest : Int
  highest : Int
  /-- What precedes an exponent that is not negative. -/
  plus : String

def zeros (n : Int) : String := String.ofList (List.replicate n.toNat '0')

/-- The decimal point stands behind the first digit if an exponent is written. A number without an
exponent has a digit behind the point. -/
def Digits.text (style : Style) (d : Digits) : String :=
  let ds := Nat.toDigits 10 d.digits
  let first := d.exponent + ds.length - 1
  if style.lowest ≤ first && first ≤ style.highest then
    if 0 ≤ d.exponent then String.ofList ds ++ zeros d.exponent ++ ".0"
    else if 0 ≤ first then
      let whole := (first + 1).toNat
      String.ofList (ds.take whole) ++ "." ++ String.ofList (ds.drop whole)
    else "0." ++ zeros (-first - 1) ++ String.ofList ds
  else
    let fraction := if ds.length = 1 then "" else "." ++ String.ofList (ds.drop 1)
    let sign := if 0 ≤ first then style.plus else "-"
    String.ofList (ds.take 1) ++ fraction ++ "e" ++ sign ++ toString first.natAbs

/-- The text of a finite number. -/
def text (style : Style) (x : Float) : String :=
  let bits := x.toBits.toNat
  let sign := if Nat.pow 2 63 ≤ bits then "-" else ""
  if bits % Nat.pow 2 63 = 0 then sign ++ "0.0"
  else sign ++ (Binary.ofBits bits).shortest.stripped.text style

/-- A quotient without its fraction, which is taken off towards the nearer whole number. From halfway it is
the even one. -/
def roundedQuotient (num den : Nat) : Nat :=
  let q := num / den
  let rest := 2 * (num % den)
  if rest < den || (rest = den && q % 2 = 0) then q else q + 1

/-- The bits of the number nearest to a positive quotient. -/
def bitsOfQuotient (num den : Nat) : Nat :=
  -- The multiples of `2 ^ grid` next to the quotient have 53 binary digits, or the grid is the finest one.
  let quotientOn := fun grid : Int => (num * Nat.pow 2 (-grid).toNat, den * Nat.pow 2 grid.toNat)
  let near : Int := max ((num.log2 : Int) - den.log2 - 53) (-1074)
  let (n, d) := quotientOn near
  let grid := if Nat.pow 2 53 ≤ n / d then near + 1 else near
  let (n, d) := quotientOn grid
  (grid + 1074).toNat * Nat.pow 2 52 + roundedQuotient n d

/-- The number nearest to `n * 10 ^ e`. There is none beyond the range. -/
def nearest? (n : Nat) (e : Int) : Option Float :=
  let size := e + digitCount n
  if n = 0 || size < -330 then some 0
  else if 310 < size then none
  else
    let bits := bitsOfQuotient (n * Nat.pow 10 e.toNat) (Nat.pow 10 (-e).toNat)
    if bits < 2047 * Nat.pow 2 52 then some (Float.ofBits bits.toUInt64) else none

end RouteDocs.Decimal
