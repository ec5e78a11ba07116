import SchemaDeref.Number.Shortest

/-!
# Numbers

A number is an exact integer or a double; the two are different values even where
they denote the same quantity. `Number.text` is the written form: integers in plain
digits, doubles by the fewest digits that read back, always with a point or an exponent.
-/

namespace SchemaDeref

inductive Number where
  | int (value : Int)
  | double (value : Binary64)
deriving DecidableEq, Repr, Inhabited

/-! ## Written form -/

/-- Where positional notation ends and how an exponent is written. -/
structure DoubleFormat where
  /-- Powers of ten of the leading digit that are written positionally, both ends
  included. -/
  leastPositional : Int
  greatestPositional : Int
  /-- The mark between digits and exponent, and the sign of an exponent that is not
  negative. -/
  mark : String
  plus : String

/-- Positional from `0.00001` up to sixteen digits before the point, `1e-6` and
`1e+16` beyond. -/
def Number.doubleFormat : DoubleFormat := ⟨-5, 15, "e", "+"⟩

namespace DoubleFormat

def zeros (n : Nat) : String := String.ofList (List.replicate n '0')

/-- The digits with a point after the first `n`; a whole number gets the fraction
`0`. -/
def positional (digits : String) (exponent : Int) : String :=
  let count : Int := digits.length
  let place := count + exponent
  if 0 ≤ exponent then digits ++ zeros exponent.toNat ++ ".0"
  else if 0 < place then
    String.ofList (digits.toList.take place.toNat) ++ "." ++
      String.ofList (digits.toList.drop place.toNat)
  else "0." ++ zeros (-place).toNat ++ digits

/-- One digit before the point, the others after it, then the power of ten. -/
def scientific (format : DoubleFormat) (digits : String) (leading : Int) : String :=
  let fraction := String.ofList (digits.toList.drop 1)
  let mantissa :=
    String.ofList (digits.toList.take 1) ++
      (if fraction.isEmpty then "" else "." ++ fraction)
  let sign := if leading < 0 then "-" else format.plus
  mantissa ++ format.mark ++ sign ++ toString leading.natAbs

/-- The written form of a decimal fraction that is not zero. -/
def decimal (format : DoubleFormat) (d : Decimal) : String :=
  let digits := toString d.digits
  let leading := d.exponent + digits.length - 1
  if format.leastPositional ≤ leading && leading ≤ format.greatestPositional then
    positional digits d.exponent
  else format.scientific digits leading

end DoubleFormat

/-- A double, with the sign of a zero kept. -/
def Binary64.text (x : Binary64) : String :=
  let sign := if x.negative then "-" else ""
  if x.isZero then sign ++ "0.0" else sign ++ Number.doubleFormat.decimal x.shortest

namespace Number

def text : Number → String
  | .int value => toString value
  | .double value => value.text

/-- Equality of values: an integer never equals a double, and the two zeros of
doubles are equal. -/
def sameValue : Number → Number → Bool
  | .int a, .int b => a == b
  | .double a, .double b => a.sameValue b
  | _, _ => false

end Number

end SchemaDeref
