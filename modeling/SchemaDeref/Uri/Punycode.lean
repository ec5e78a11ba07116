/-!
# Punycode

A spelling of any text in small letters, digits and hyphens. The ASCII characters of
the text come first, a hyphen closes them if there are any, and the others follow as
numbers: each says how far to go on from the letter before, when one walks through
the places of the text once for every code point. A number is written in base 36,
its lowest digit first; a digit below the threshold of its place ends it. The
thresholds follow the size of the numbers so far.
-/

namespace SchemaDeref.Uri.Punycode

/-- Numbers have to stay below this. -/
def limit : Nat := 0x100000000

/-! ## Thresholds -/

/-- The threshold of a digit, where digits have the places 36, 72, 108 and so on. -/
def threshold (bias place : Nat) : Nat :=
  if place ≤ bias then 1 else if bias + 26 ≤ place then 26 else place - bias

theorem threshold_pos (bias place : Nat) : 0 < threshold bias place := by
  unfold threshold
  split
  · omega
  · split <;> omega

/-- The bias for a size, of which all but the last digit is taken off. -/
def biasOf (size : Nat) (place : Nat) : Nat :=
  if size > 455 then biasOf (size / 35) (place + 36) else place +
    36 * size / (size + 38)
termination_by size
decreasing_by exact Nat.div_lt_self (by omega) (by omega)

/-- The bias after a number, when `count` letters are in place. The first number of
a text is likely to be far larger than the others. -/
def adapt (number count : Nat) (isFirst : Bool) : Nat :=
  let size := if isFirst then number / 700 else number / 2
  biasOf (size + size / count) 0

/-! ## Digits -/

/-- The value of a digit: letters first, then the digits of ASCII. -/
def digit? (c : Char) : Option Nat :=
  if 'a' ≤ c && c ≤ 'z' then some (c.toNat - 97)
  else if '0' ≤ c && c ≤ '9' then some (c.toNat - 22)
  else none

def digitChar (value : Nat) : Char :=
  if value < 26 then Char.ofNat (97 + value) else Char.ofNat (22 + value)

/-- A number in digits from some place on. -/
def digits (bias place number : Nat) : List Char :=
  let t := threshold bias place
  if number < t then [digitChar number]
  else
    digitChar (t + (number - t) % (36 - t)) ::
      digits bias (place + 36) ((number - t) / (36 - t))
termination_by number
decreasing_by
  have := threshold_pos bias place
  exact Nat.lt_of_le_of_lt (Nat.div_le_self _ _) (by omega)

/-! ## Reading -/

/-- How far the reading of a text has come. -/
structure Reading where
  text : List Char
  /-- The code point of the next letter. -/
  code : Nat := 128
  bias : Nat := 72
  /-- The place of the next letter, to which the digits of its number are added. -/
  position : Nat := 0
  /-- Where the position stood before the number. -/
  start : Nat := 0
  place : Nat := 36
  /-- What the next digit counts. -/
  weight : Nat := 1

namespace Reading

/-- Puts in the letter that the number leads to. -/
def finish (reading : Reading) : Option Reading :=
  let count := reading.text.length + 1
  let code := reading.code + reading.position / count
  let position := reading.position % count
  if code.isValidChar then
    some {
      text := reading.text.insertIdx position (Char.ofNat code)
      code
      bias := adapt (reading.position - reading.start) count (reading.start == 0)
      position := position + 1
      start := position + 1 }
  else none

def next (reading : Reading) (c : Char) : Option Reading := do
  let value ← digit? c
  let t := threshold reading.bias reading.place
  let reading :=
    { reading with position := reading.position + value * reading.weight }
  if reading.position ≥ limit then failure
  if value < t then reading.finish
  else
    let weight := reading.weight * (36 - t)
    if weight ≥ limit then failure
    return { reading with weight, place := reading.place + 36 }

end Reading

/-- The ASCII characters of a spelling, and the digits behind them. A hyphen that
has none before it is no mark. -/
def parts (spelling : List Char) : List Char × List Char :=
  let digits := (spelling.reverse.takeWhile (· != '-')).reverse
  let basic := spelling.take (spelling.length - digits.length - 1)
  if basic.isEmpty then ([], spelling) else (basic, digits)

/-- The text that is spelled. -/
def decode? (spelling : List Char) : Option (List Char) := do
  let (basic, digits) := parts spelling
  let reading ← digits.foldlM Reading.next { text := basic }
  if reading.place == 36 then return reading.text else failure

/-! ## Writing -/

/-- How far the writing of a text has come. -/
structure Writing where
  digits : List Char
  /-- How far the walk has gone since the last letter. -/
  distance : Nat
  bias : Nat
  /-- How many letters are in place. -/
  count : Nat

/-- Walks past a character of the text in the round of a code point. -/
def Writing.pass (basic code : Nat) (writing : Writing) (c : Char) : Writing :=
  if c.toNat < code then { writing with distance := writing.distance + 1 }
  else if c.toNat = code then
    { digits := writing.digits ++ Punycode.digits writing.bias 36 writing.distance
      distance := 0
      bias := adapt writing.distance (writing.count + 1) (writing.count == basic)
      count := writing.count + 1 }
  else writing

/-- One round for each code point of the text, where `start` is the first that may
come. -/
def Writing.rounds (text : List Char) (basic : Nat) :
    (start : Nat) → (codes : List Nat) → Writing → Writing
  | _, [], writing => writing
  | start, code :: codes, writing =>
    let distance := writing.distance + (code - start) * (writing.count + 1)
    let after := text.foldl (Writing.pass basic code) { writing with distance }
    rounds text basic (code + 1) codes { after with distance := after.distance + 1 }

/-- The spelling of a text. -/
def encode (text : List Char) : List Char :=
  let basic := text.filter (·.toNat < 128)
  let codes := ((text.map Char.toNat).filter (128 ≤ ·)).mergeSort.eraseDups
  let writing := Writing.rounds text basic.length 128 codes ⟨[], 0, 72, basic.length⟩
  (if basic.isEmpty then [] else basic ++ ['-']) ++ writing.digits

end SchemaDeref.Uri.Punycode
