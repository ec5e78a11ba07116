import SchemaDeref.Number.Shortest

/-!
# Decimal fractions

Reading `12.5e-3` and its like, and the double nearest to what was read. Unlike the
numerals of JSON text the whole part or the fraction may be missing, leading zeros
are allowed, and the result is always the nearest double.
-/

namespace SchemaDeref.Decimal

/-! ## Rounding -/

/-- The nearest double; none beyond the largest one. Fractions far outside of the
range are settled by their leading place. -/
def nearest? (d : Decimal) : Option Binary64 :=
  let place := d.exponent + (toString d.digits).length
  if d.digits == 0 then some (.zero false)
  else if place > 400 then none
  else if place < -400 then some (.zero false)
  else
    let (num, den) := Binary64.powerOfTen d.exponent
    Binary64.ofRatio? (d.digits * num) den

/-! ## Reading -/

def digitValue (c : Char) : Nat := c.toNat - 48

/-- The number that a run of digits stands for. -/
def natural (run : List Char) : Nat :=
  run.foldl (fun acc c => acc * 10 + digitValue c) 0

/-- The power of ten after its mark: a sign, if any, and digits. -/
def exponent? (text : List Char) : Option Int :=
  let (down, run) := match text with
    | '+' :: rest => (false, rest)
    | '-' :: rest => (true, rest)
    | rest => (false, rest)
  if run.isEmpty || !run.all Char.isDigit then none
  else if down then some (-(natural run : Int)) else some (natural run)

/-- A fraction without sign. -/
def read? (text : List Char) : Option Decimal :=
  let whole := text.takeWhile Char.isDigit
  let rest := text.dropWhile Char.isDigit
  let (fraction, rest) := match rest with
    | '.' :: rest => (rest.takeWhile Char.isDigit, rest.dropWhile Char.isDigit)
    | rest => ([], rest)
  if whole.isEmpty && fraction.isEmpty then none
  else
    let digits := natural (whole ++ fraction)
    let places : Int := fraction.length
    match rest with
    | [] => some ⟨digits, -places⟩
    | c :: rest =>
      if c == 'e' || c == 'E' then (exponent? rest).map fun e =>
        ⟨digits, e - places⟩ else none

end SchemaDeref.Decimal
