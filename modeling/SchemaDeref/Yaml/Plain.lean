import SchemaDeref.Json.Basic
import SchemaDeref.Number.Decimal

/-!
# Plain scalars

What a scalar without quotes stands for: nothing, a truth value, a whole number, a
fraction, or else its own text.
-/

namespace SchemaDeref.Yaml

/-! ## Words -/

def isNull (text : String) : Bool := text ∈ ["null", "Null", "NULL", "~"]

def bool? (text : String) : Option Bool :=
  if text ∈ ["true", "True", "TRUE"] then some true
  else if text ∈ ["false", "False", "FALSE"] then some false
  else none

/-! ## Whole numbers -/

/-- The value of a digit, of either case. -/
def digit? (c : Char) : Option Nat :=
  if '0' ≤ c && c ≤ '9' then some (c.toNat - 48)
  else if 'a' ≤ c && c ≤ 'f' then some (c.toNat - 87)
  else if 'A' ≤ c && c ≤ 'F' then some (c.toNat - 55)
  else none

/-- The number written by one digit or more of a radix. -/
def natural? (radix : Nat) (text : List Char) : Option Nat :=
  if text.isEmpty then none
  else text.foldlM (fun acc c => do
    let d ← digit? c
    if d < radix then some (acc * radix + d) else none) 0

/-- A number with the mark of its radix, or in plain digits. -/
def marked? (text : List Char) : Option Nat :=
  match text with
  | '0' :: 'x' :: rest => natural? 16 rest
  | '0' :: 'o' :: rest => natural? 8 rest
  | '0' :: 'b' :: rest => natural? 2 rest
  | rest => natural? 10 rest

def stripSign (text : List Char) : List Char :=
  match text with
  | '+' :: rest | '-' :: rest => rest
  | rest => rest

/-- Digits behind a leading zero are a text, not a number. -/
def isPadded (text : List Char) : Bool :=
  match stripSign text with
  | '0' :: c :: rest => (c :: rest).all Char.isDigit
  | _ => false

/-- The whole number a text stands for, of any size. -/
def integer? (text : List Char) : Option Int :=
  if isPadded text then none
  else
    match text with
    | '-' :: rest => (marked? rest).map fun n => -(n : Int)
    | '+' :: rest => (marked? rest).map fun n => (n : Int)
    | rest => (marked? rest).map fun n => (n : Int)

/-- The whole numbers that are kept exactly. -/
def isExact (value : Int) : Bool :=
  -(Nat.pow 2 63 : Int) ≤ value && value < Nat.pow 2 64

/-- The whole numbers that are recognised as such. -/
def isRecognised (value : Int) : Bool := -(Nat.pow 2 127 : Int) ≤ value && value <
    Nat.pow 2 128

/-! ## Fractions -/

/-- A text as a fraction: a double, or null for what is not finite. -/
def fraction? (text : List Char) : Option Json :=
  let body := match text with
    | '+' :: rest => rest
    | rest => rest
  if String.ofList body ∈ [".inf", ".Inf", ".INF"] ||
      String.ofList text ∈ ["-.inf", "-.Inf", "-.INF", ".nan", ".NaN", ".NAN"] then
        some .null
  else
    let (negative, magnitude) := match body with
      | '-' :: rest => (true, rest)
      | rest => (false, rest)
    if negative && body.length < text.length then none
    else do
      let decimal ← Decimal.read? magnitude
      let x ← decimal.nearest?
      return .num (.double (x.withSign negative))

/-! ## Any plain scalar -/

/-- A whole number as a value, none where the text is no whole number. A number that
is recognised but cannot be kept exactly is a fault, the inner none. -/
def wholeNumber? (text : List Char) : Option (Option Json) :=
  match integer? text with
  | some value =>
    if isExact value then some (some (.num (.int value)))
    else if isRecognised value then some none
    else none
  | none => none

/-- The value of a plain scalar; none is a number out of range. -/
def plainValue (text : String) : Option Json :=
  if text.isEmpty || isNull text then some .null
  else
    match bool? text with
    | some value => some (.bool value)
    | none =>
      match wholeNumber? text.toList with
      | some value => value
      | none =>
        if isPadded text.toList then some (.str text)
        else some ((fraction? text.toList).getD (.str text))

end SchemaDeref.Yaml
