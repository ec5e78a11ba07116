import SchemaDeref.Json.Basic
import SchemaDeref.Text.Basic

/-!
# Numerals of JSON text

A numeral without point, exponent and excess of digits is an integer. Any other is
read in one pass: the leading digits that fit sixty-four bits form a natural number,
the others only count as places, and that number is then multiplied or divided once
by a power of ten. The result is close to the numeral, not always the nearest double.
-/

namespace SchemaDeref.Json

/-- Why a text is not JSON: it ends too early, or it holds something that may not
stand there. -/
inductive Fault where
  | unfinished
  | malformed
deriving DecidableEq, Repr

/-- The fault of a text in which something else should follow. -/
def Fault.at : List Char → Fault
  | [] => .unfinished
  | _ :: _ => .malformed

namespace Numeral

def digitValue (c : Char) : Nat := c.toNat - 48

/-- The longest run of digits at the front, by their values. -/
def digitRun (text : List Char) : List Nat × Remainder text :=
  ((text.takeWhile Char.isDigit).map digitValue, .after Char.isDigit text)

/-- At least one digit. -/
def digits (text : List Char) : Except Fault (List Nat × Remainder text) :=
  match digitRun text with
  | ([], _) => .error (.at text)
  | run => .ok run

/-- The greatest significand. -/
def significandBound : Nat := Nat.pow 2 64 - 1

/-- Appends digits as long as the significand fits; also counts the digits that were
appended and those that were left. -/
def accumulate (significand kept : Nat) : List Nat → Nat × Nat × Nat
  | [] => (significand, kept, 0)
  | d :: rest =>
    if significand * 10 + d ≤ significandBound then
      accumulate (significand * 10 + d) (kept + 1) rest
    else (significand, kept, rest.length + 1)

/-- `10 ^ n` as a double, for `n` up to 308. -/
def powerOfTen (n : Nat) : Binary64 :=
  (Binary64.ofNat? (Nat.pow 10 n)).getD (.zero false)

/-- Multiplies or divides by a power of ten; none when the result is beyond the
doubles. Division by more than `10 ^ 308` goes in steps, and two steps leave nothing
of any significand. -/
def scale : Nat → Binary64 → Int → Option Binary64
  | 0, x, _ => some x
  | steps + 1, x, exponent =>
    if exponent.natAbs ≤ 308 then
      if 0 ≤ exponent then x.times? (powerOfTen exponent.natAbs)
      else x.dividedBy? (powerOfTen exponent.natAbs)
    else if x.isZero then some x
    else if 0 ≤ exponent then none
    else do
      let smaller ← x.dividedBy? (powerOfTen 308)
      scale steps smaller (exponent + 308)

/-- The double of a significand and a power of ten. -/
def double (negative : Bool) (significand : Nat)
    (exponent : Int) : Except Fault Number :=
  match Binary64.ofNat? significand >>= fun x => scale 4 x exponent with
  | some x => .ok (.double (x.withSign negative))
  | none => .error .malformed

/-- A whole number without point or exponent. Below the integers, and for a negative
zero, it is a double. -/
def whole (negative : Bool) (significand : Nat) : Except Fault Number :=
  if !negative then .ok (.int significand)
  else if significand == 0 || significand > Nat.pow 2 63 then
    double true significand 0
  else .ok (.int (-significand))

/-- The number that digits stand for as an exponent. One that passes thirty-one bits
is none. -/
def exponentValue (digits : List Nat) : Option Nat :=
  let value := digits.foldl (fun acc d => acc * 10 + d) 0
  if value < Nat.pow 2 31 then some value else none

/-- The part after the exponent mark. -/
def readExponent (negative : Bool) (significand : Nat) (exponent : Int)
    (text : List Char) :
    Except Fault (Number × Remainder text) := do
  let (down, afterSign) : Bool × Remainder text :=
    match text with
    | '+' :: rest => (false, (Remainder.all rest).ofTail)
    | '-' :: rest => (true, (Remainder.all rest).ofTail)
    | rest => (false, .all rest)
  let (run, rest) ← digits afterSign.val
  let shift := match exponentValue run with
    | some n => (n : Int)
    | none => (Nat.pow 2 31 : Int)
  let number ← double negative significand
    (if down then exponent - shift else exponent + shift)
  return (number, afterSign.trans rest)

/-- A significand and a power of ten, with the exponent if one follows. -/
def readScaled (negative : Bool) (significand : Nat) (exponent : Int)
    (text : List Char) :
    Except Fault (Number × Remainder text) :=
  match text with
  | 'e' :: tail | 'E' :: tail => do
    let (number, last) ← readExponent negative significand exponent tail
    return (number, last.ofTail)
  | rest => do return (← double negative significand exponent, .all rest)

/-- The part after the point. -/
def readFraction (negative : Bool) (significand : Nat) (exponent : Int)
    (text : List Char) :
    Except Fault (Number × Remainder text) := do
  let (run, rest) ← digits text
  let (significand, kept, _) := accumulate significand 0 run
  let (number, last) ← readScaled negative significand (exponent - kept) rest.val
  return (number, rest.trans last)

/-- Whether an exponent follows. -/
def startsExponent : List Char → Bool
  | 'e' :: _ | 'E' :: _ => true
  | _ => false

/-- A numeral after the digits of its whole part. A zero stands alone before point
and exponent. -/
def readTail (negative : Bool) (run : List Nat) (text : List Char) :
    Except Fault (Number × Remainder text) :=
  if run.head? == some 0 && run.length > 1 then .error .malformed
  else
    let (significand, _, left) := accumulate 0 0 run
    match text with
    | '.' :: tail => do
      let (number, last) ← readFraction negative significand left tail
      return (number, last.ofTail)
    | rest =>
      if left == 0 && !startsExponent rest then do
        return (← whole negative significand, .all rest)
      else readScaled negative significand left rest

/-- A numeral after its minus sign. -/
def readNegative (text : List Char) : Except Fault (Number × Remainder text) := do
  let (run, rest) ← digits text
  let (number, last) ← readTail true run rest.val
  return (number, rest.trans last)

/-- A numeral without sign, after its first digit. -/
def readPositive (first : Char)
    (text : List Char) : Except Fault (Number × Remainder text) := do
  let (run, rest) := digitRun text
  let (number, last) ← readTail false (digitValue first :: run) rest.val
  return (number, rest.trans last)

end Numeral

end SchemaDeref.Json
