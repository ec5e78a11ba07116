import SchemaDeref.Number.Binary64

/-!
# The fewest digits that read back

`Binary64.shortest` writes a positive double with the fewest decimal digits that
still round to it. For one digit, two digits and so on it tries the two neighbours
of the value on that decimal grid; the first grid with a neighbour inside the
rounding interval wins, and of two such neighbours the nearer one. Seventeen digits
always suffice.
-/

namespace SchemaDeref

/-- The decimal fraction `digits · 10 ^ exponent`. -/
structure Decimal where
  digits : Nat
  exponent : Int
deriving DecidableEq, Repr, Inhabited

namespace Binary64

/-- The reals that round to a positive double, as two bounds over one denominator. -/
structure Interval where
  low : Nat
  value : Nat
  high : Nat
  unit : Nat
  /-- The bounds themselves round to the double exactly when its mantissa is even. -/
  closed : Bool

/-- Half way to each neighbour. The gap below a power of two is half the gap above
it. -/
def interval (x : Binary64) : Interval :=
  let (num, den) := powerOfTwo (x.exponent - 2)
  let m := 4 * x.mantissa
  let below :=
    if x.mantissa == Nat.pow 2 52 && x.exponent > leastExponent then 1 else 2
  ⟨(m - below) * num, m * num, (m + 2) * num, den, x.mantissa % 2 == 0⟩

/-- Whether the fraction `num / den` lies in the interval. -/
def Interval.holds (i : Interval) (num den : Nat) : Bool :=
  let point := num * i.unit
  if i.closed then i.low * den ≤ point && point ≤ i.high * den
  else i.low * den < point && point < i.high * den

/-- `10 ^ e` as a fraction. -/
def powerOfTen (e : Int) : Nat × Nat :=
  if e < 0 then (1, Nat.pow 10 e.natAbs) else (Nat.pow 10 e.natAbs, 1)

/-- The neighbours `lower` and `lower + 1` of the value on the grid `10 ^ e`: the
nearer of those that read back, the even one of two that are equally near. -/
def Interval.nearest? (i : Interval) (e : Int) : Option Nat :=
  let (num, den) := powerOfTen e
  let top := i.value * den
  let bottom := i.unit * num
  let lower := top / bottom
  let rest := 2 * (top % bottom)
  let low := i.holds (lower * num) den
  let high := i.holds ((lower + 1) * num) den
  if low && (!high || rest < bottom || (rest == bottom && lower % 2 == 0)) then
    some lower
  else if high then some (lower + 1)
  else none

/-- The least `k ≥ start` with `num / den < 10 ^ k`, looked for in so many steps. -/
def settlePlace (num den : Nat) : Nat → Int → Int
  | 0, k => k
  | steps + 1, k =>
    let (top, bottom) := powerOfTen k
    if num * bottom < top * den then k else settlePlace num den steps (k + 1)

/-- The number of digits before the point of `num / den`, negative for leading zeros
after it. The binary logarithms, times the logarithm of two, are right to within two
places. -/
def decimalPlace (num den : Nat) : Int :=
  settlePlace num den 4 (((num.log2 : Int) - (den.log2 : Int)) * 1233 / 4096 - 1)

/-- The first grid, from `count` digits on, with a neighbour that reads back. -/
def searchGrids (i : Interval) (place : Int) : Nat → Nat → Decimal
  | 0, _ => ⟨0, 0⟩
  | more + 1, count =>
    let e := place - count
    match i.nearest? e with
    | some digits => ⟨digits, e⟩
    | none => searchGrids i place more (count + 1)

/-- Moves trailing zeros of the digits into the exponent. -/
def trimZeros : Nat → Decimal → Decimal
  | 0, d => d
  | more + 1, d =>
    if d.digits != 0 && d.digits % 10 == 0 then
      trimZeros more ⟨d.digits / 10, d.exponent + 1⟩
    else d

/-- The shortest decimal that reads back as the magnitude of a double that is not
zero. -/
def shortest (x : Binary64) : Decimal :=
  let i := x.interval
  trimZeros 20 (searchGrids i (decimalPlace i.value i.unit) 18 1)

end Binary64

end SchemaDeref
