/-!
# Binary fractions of 64 bits

A finite IEEE 754 double, held as sign, mantissa and power of two, so that every
question about it is a question about natural numbers. `ofRatio?` is the one place
where rounding happens: the nearest value, a tie to the even mantissa.
-/

namespace SchemaDeref

/-- The value `± mantissa · 2 ^ exponent`. A zero keeps its sign. -/
structure Binary64 where
  negative : Bool
  mantissa : Nat
  exponent : Int
deriving DecidableEq, Repr, Inhabited

namespace Binary64

/-- Mantissas stay below this bound. -/
def mantissaBound : Nat := Nat.pow 2 53

/-- The power of two of the smallest positive value. -/
def leastExponent : Int := -1074

/-- The largest power of two of a finite value. -/
def greatestExponent : Int := 971

def zero (negative : Bool) : Binary64 := ⟨negative, 0, leastExponent⟩

def isZero (x : Binary64) : Bool := x.mantissa == 0

/-- Equality of values: the two zeros are equal, all else has one form. -/
def sameValue (x y : Binary64) : Bool := (x.isZero && y.isZero) || x == y

def withSign (negative : Bool) (x : Binary64) : Binary64 := { x with negative }

/-! ## Magnitudes as fractions -/

/-- `2 ^ e` as a fraction. -/
def powerOfTwo (e : Int) : Nat × Nat :=
  if e < 0 then (1, Nat.pow 2 e.natAbs) else (Nat.pow 2 e.natAbs, 1)

/-- The magnitude as a fraction of natural numbers. -/
def magnitude (x : Binary64) : Nat × Nat :=
  let (num, den) := powerOfTwo x.exponent
  (x.mantissa * num, den)

/-- The quotient rounded to the nearest natural number, a tie to the even one. -/
def divideToEven (num den : Nat) : Nat :=
  let quotient := num / den
  let rest := 2 * (num % den)
  if rest < den || (rest == den && quotient % 2 == 0) then quotient else quotient + 1

/-- `num / (den · 2 ^ e)` as a fraction. -/
def scaled (num den : Nat) (e : Int) : Nat × Nat :=
  let (up, down) := powerOfTwo e
  (num * down, den * up)

/-- The power of two at which `num / den` has a mantissa of 53 bits, or the least
one. -/
def exponentFor (num den : Nat) : Int :=
  let guess := max ((num.log2 : Int) - (den.log2 : Int) - 52) leastExponent
  let (top, bottom) := scaled num den guess
  if top / bottom < Nat.pow 2 52 then max (guess - 1) leastExponent else guess

/-- The double nearest to `num / den`; none when it is beyond the largest one. -/
def ofRatio? (num den : Nat) : Option Binary64 :=
  if num == 0 then some (zero false)
  else
    let e := exponentFor num den
    let (top, bottom) := scaled num den e
    let m := divideToEven top bottom
    let (m, e) := if m == mantissaBound then (Nat.pow 2 52, e + 1) else (m, e)
    if e > greatestExponent then none else some ⟨false, m, e⟩

/-- The double nearest to a natural number. -/
def ofNat? (n : Nat) : Option Binary64 := ofRatio? n 1

/-! ## Arithmetic on magnitudes, rounded once -/

/-- The rounded product of two magnitudes. -/
def times? (x y : Binary64) : Option Binary64 :=
  let (a, b) := x.magnitude
  let (c, d) := y.magnitude
  ofRatio? (a * c) (b * d)

/-- The rounded quotient of two magnitudes. -/
def dividedBy? (x y : Binary64) : Option Binary64 :=
  let (a, b) := x.magnitude
  let (c, d) := y.magnitude
  ofRatio? (a * d) (b * c)

end Binary64

end SchemaDeref
