import SchemaDeref.Json.Numeral

/-!
# Reading JSON text

One pass over the characters with the open arrays and objects on a list. The first
fault wins, and the end of the text inside a value is a fault of its own kind. Of
two members with one name the later is kept. A text that nests arrays and objects
deeper than a bound is malformed.
-/

namespace SchemaDeref.Json

/-- The blanks of JSON text. -/
def isBlank (c : Char) : Bool := c == ' ' || c == '\n' || c == '\t' || c == '\r'

namespace Reader

/-! ## Strings -/

def hexValue? (c : Char) : Option Nat :=
  if '0' ≤ c && c ≤ '9' then some (c.toNat - 48)
  else if 'a' ≤ c && c ≤ 'f' then some (c.toNat - 87)
  else if 'A' ≤ c && c ≤ 'F' then some (c.toNat - 55)
  else none

/-- Four hexadecimal digits. With fewer than four bytes left the text ends too early. -/
def readUnit (text : List Char) : Except Fault (Nat × Remainder text) :=
  if (text.take 4).foldl (fun size c => size + c.utf8Size) 0 < 4 then
    .error .unfinished
  else
    match text with
    | a :: b :: c :: d :: rest =>
      match hexValue? a, hexValue? b, hexValue? c, hexValue? d with
      | some a, some b, some c, some d =>
        .ok (((a * 16 + b) * 16 + c) * 16 + d,
          (Remainder.all rest).ofTail.ofTail.ofTail.ofTail)
      | _, _, _, _ => .error .malformed
    | _ => .error .malformed

/-- The second half of a pair of units, itself written as an escape. -/
def readLowUnit (text : List Char) : Except Fault (Nat × Remainder text) :=
  match text with
  | '\\' :: 'u' :: rest => do
    let (low, last) ← readUnit rest
    if low < 0xDC00 || low > 0xDFFF then throw .malformed
    return (low, last.ofTail.ofTail)
  | ['\\'] => .error .unfinished
  | rest => .error (.at rest)

/-- The character of a unit, or of a pair of units beyond the first plane. A half of
a pair does not stand alone. -/
def readUnicode (text : List Char) : Except Fault (Char × Remainder text) := do
  let (high, rest) ← readUnit text
  if 0xDC00 ≤ high && high ≤ 0xDFFF then throw .malformed
  if high < 0xD800 || high > 0xDFFF then return (Char.ofNat high, rest)
  let (low, last) ← readLowUnit rest.val
  return (Char.ofNat (0x10000 + (high - 0xD800) * 0x400 + (low - 0xDC00)),
    rest.trans last)

/-- The character that a letter after a backslash stands for. -/
def escaped? : Char → Option Char
  | '"' => some '"'
  | '\\' => some '\\'
  | '/' => some '/'
  | 'b' => some '\x08'
  | 'f' => some '\x0c'
  | 'n' => some '\n'
  | 'r' => some '\r'
  | 't' => some '\t'
  | _ => none

/-- What follows a backslash. -/
def readEscape (text : List Char) : Except Fault (Char × Remainder text) :=
  match text with
  | [] => .error .unfinished
  | 'u' :: rest => do
    let (c, last) ← readUnicode rest
    return (c, last.ofTail)
  | c :: rest =>
    match escaped? c with
    | some e => .ok (e, (Remainder.all rest).ofTail)
    | none => .error .malformed

/-- A string after its opening quote. -/
def readString (done : List Char) (text : List Char) :
    Except Fault (String × Remainder text) :=
  match text with
  | [] => .error .unfinished
  | '"' :: rest => .ok (String.ofList done.reverse, (Remainder.all rest).ofTail)
  | '\\' :: rest => do
    let (c, after) ← readEscape rest
    let (s, last) ← readString (c :: done) after.val
    return (s, (after.trans last).ofTail)
  | c :: rest =>
    if c < ' ' then .error .malformed
    else do
      let (s, last) ← readString (c :: done) rest
      return (s, last.ofTail)
termination_by text.length
decreasing_by
  · exact Nat.lt_succ_of_le after.property
  · exact Nat.lt_succ_self _

/-! ## Values -/

/-- The rest of a word whose first letter has been read. -/
def readWord (word : List Char) (text : List Char) : Except Fault (Remainder text) :=
  match word, text with
  | [], rest => .ok (.all rest)
  | _ :: _, [] => .error .unfinished
  | w :: word, c :: rest =>
    if c == w then (readWord word rest).map Remainder.ofTail else .error .malformed

/-- A value that is neither array nor object, from its first character on. -/
def readScalar (c : Char) (rest : List Char) : Except Fault (Json × Remainder rest) :=
  match c with
  | 'n' => do return (.null, ← readWord ['u', 'l', 'l'] rest)
  | 't' => do return (.bool true, ← readWord ['r', 'u', 'e'] rest)
  | 'f' => do return (.bool false, ← readWord ['a', 'l', 's', 'e'] rest)
  | '"' => do
    let (s, last) ← readString [] rest
    return (.str s, last)
  | '-' => do
    let (number, last) ← Numeral.readNegative rest
    return (.num number, last)
  | c =>
    if c.isDigit then do
      let (number, last) ← Numeral.readPositive c rest
      return (.num number, last)
    else .error .malformed

/-- An array or object that is still open: its items in reverse, or its members and
the name whose value comes next. -/
inductive Frame where
  | arr (done : List Json)
  | obj (done : Members Json) (name : String)

/-- What may come next. -/
inductive Mode where
  | value
  | itemOrEnd
  | nameOrEnd
  | name
  | colon
  | separator

/-- Puts a finished value into the innermost open frame, or ends with it. -/
def deliver (value : Json) : List Frame → Json ⊕ List Frame
  | [] => .inl value
  | .arr done :: outer => .inr (.arr (value :: done) :: outer)
  | .obj done name :: outer => .inr (.obj (done.insert name value) name :: outer)

/-- What one character, not a blank, leads to: a finished value or the frames and
the mode to go on with, and the rest of the text. -/
def step (nesting : Nat) (frames : List Frame) (mode : Mode) (c : Char)
    (rest : List Char) :
    Except Fault ((Json ⊕ (List Frame × Mode)) × Remainder rest) :=
  let finish (value : Json) (outer : List Frame) (rest' : Remainder rest) :
      Except Fault ((Json ⊕ (List Frame × Mode)) × Remainder rest) :=
    match deliver value outer with
    | .inl value => .ok (.inl value, rest')
    | .inr frames => .ok (.inr (frames, .separator), rest')
  let goOn (frames : List Frame) (mode : Mode) :
      Except Fault ((Json ⊕ (List Frame × Mode)) × Remainder rest) :=
    .ok (.inr (frames, mode), .all rest)
  let value (_ : Unit) :
      Except Fault ((Json ⊕ (List Frame × Mode)) × Remainder rest) :=
    if c == '[' || c == '\x7b' then
      if frames.length ≥ nesting then .error .malformed
      else if c == '[' then goOn (.arr [] :: frames) .itemOrEnd
      else goOn (.obj [] "" :: frames) .nameOrEnd
    else do
      let (scalar, last) ← readScalar c rest
      finish scalar frames last
  let name (_ : Unit) :
      Except Fault ((Json ⊕ (List Frame × Mode)) × Remainder rest) :=
    match c, frames with
    | '"', .obj done _ :: outer => do
      let (name, last) ← readString [] rest
      .ok (.inr (.obj done name :: outer, .colon), last)
    | _, _ => .error .malformed
  match mode, c, frames with
  | .value, _, _ => value ()
  | .itemOrEnd, ']', .arr _ :: outer => finish (.arr []) outer (.all rest)
  | .itemOrEnd, _, _ => value ()
  | .nameOrEnd, '\x7d', .obj _ _ :: outer => finish (.obj []) outer (.all rest)
  | .nameOrEnd, _, _ => name ()
  | .name, _, _ => name ()
  | .colon, ':', _ => goOn frames .value
  | .separator, ',', .arr _ :: _ => goOn frames .value
  | .separator, ',', .obj _ _ :: _ => goOn frames .name
  | .separator, ']', .arr done :: outer =>
    finish (.arr done.reverse) outer (.all rest)
  | .separator, '\x7d', .obj done _ :: outer => finish (.obj done) outer (.all rest)
  | _, _, _ => .error .malformed

/-- Reads on to the end of the outermost value. -/
def run (nesting : Nat) (frames : List Frame) (mode : Mode) (text : List Char) :
    Except Fault (Json × List Char) :=
  match text with
  | [] => .error .unfinished
  | c :: rest =>
    if isBlank c then run nesting frames mode rest
    else
      match step nesting frames mode c rest with
      | .error fault => .error fault
      | .ok (.inl value, last) => .ok (value, last.val)
      | .ok (.inr (frames, mode), last) => run nesting frames mode last.val
termination_by text.length
decreasing_by
  · exact Nat.lt_succ_self _
  · exact Nat.lt_succ_of_le last.property

end Reader

/-- The value at the front of a text, and what follows it. -/
def readValue (nesting : Nat) (text : List Char) : Except Fault (Json × List Char) :=
  Reader.run nesting [] .value text

/-- Nothing but blanks may follow the value of a text. -/
def checkEnd (text : List Char) : Except Fault Unit :=
  if text.all isBlank then .ok () else .error .malformed

/-- The deepest nesting of arrays and objects in a document. -/
def documentNesting : Nat := 127

/-- A text that is one value. -/
def parse (nesting : Nat) (text : String) : Except Fault Json := do
  let (value, rest) ← readValue nesting text.toList
  checkEnd rest
  return value

end SchemaDeref.Json
