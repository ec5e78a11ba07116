import SchemaDeref.Yaml.Cursor

/-!
# Scalars of a YAML text

Plain, quoted and block scalars. Each reader starts at the first character of a
scalar and gives its text and the cursor behind it, or none where the text is
malformed. Every loop takes at least one character a turn, so the length of the text
bounds it. Loops collect characters last first.
-/

namespace SchemaDeref.Yaml

/-- How a scalar is written. -/
inductive Style where
  | plain
  /-- A block that keeps its line breaks. -/
  | literal
  /-- A block that joins its lines. -/
  | folded
  | quoted
deriving DecidableEq, Repr

/-! ## Line folding -/

/-- Blanks and line breaks between two words: the blanks while no break has been
met, then the first break and the breaks after it. -/
structure Space where
  blanks : List Char
  first : List Char
  others : List Char
  /-- A line break has been met. -/
  broken : Bool

namespace Space

def none : Space := ⟨[], [], [], false⟩

/-- What the space becomes: a single line feed is a blank, and of several the first
is dropped. -/
def folded (space : Space) : List Char :=
  if space.broken then
    if space.first == ['\n'] then
      (if space.others.isEmpty then [' '] else space.others)
    else space.first ++ space.others
  else space.blanks

/-- Over blanks and line breaks. A tab left of `indent` on a new line is malformed. -/
def take (indent : Nat) : Nat → Space → Cursor → Option (Space × Cursor)
  | 0, _, _ => .none
  | fuel + 1, space, cursor =>
    match cursor.peek? with
    | some c =>
      if isBlank c then
        if space.broken && cursor.column < indent && c == '\t' then .none
        else if space.broken then take indent fuel space cursor.next
        else take indent fuel { space with blanks := space.blanks ++ [c] } cursor.next
      else if isBreak c then
        let (text, after) := cursor.takeBreak
        if space.broken then take indent fuel { space with
          others := space.others ++ text } after
        else take indent fuel { space with
          blanks := [], first := text, broken := true } after
      else some (space, cursor)
    | .none => some (space, cursor)

end Space

/-! ## Plain scalars -/

/-- Whether a plain scalar ends before the next character. -/
def endsPlain (inFlow : Bool) (cursor : Cursor) : Bool :=
  (cursor.peek? == some ':' && isGap (cursor.peekAt? 1)) ||
    (inFlow && cursor.peek?.any isFlowMark)

/-- A colon that is no indicator but stands before a mark of a flow collection. -/
def isStrayColon (inFlow : Bool) (cursor : Cursor) : Bool :=
  inFlow && cursor.peek? == some ':' && (cursor.peekAt? 1).any
    fun c => isFlowMark c || c == '?'

/-- One word of a plain scalar, last character first; the flag tells whether the
scalar ends with it. -/
def plainWord (inFlow : Bool) :
    Nat → List Char → Cursor → Option (List Char × Bool × Cursor)
  | 0, _, _ => none
  | fuel + 1, word, cursor =>
    match cursor.peek? with
    | some c =>
      if isBlank c || isBreak c then some (word, false, cursor)
      else if isStrayColon inFlow cursor then none
      else if endsPlain inFlow cursor then some (word, true, cursor)
      else plainWord inFlow fuel (c :: word) cursor.next
    | none => some (word, true, cursor)

/-- A plain scalar, last character first, whose further lines are indented by
`indent` at least outside of flow collections. The flag tells whether it was
followed by a line break. -/
def plainFrom (inFlow : Bool) (indent : Nat) :
    Nat → List Char → Space → Cursor → Option (List Char × Bool × Cursor)
  | 0, _, _, _ => none
  | fuel + 1, text, space, cursor => do
    if cursor.isAtDocumentMarker || cursor.peek? == some '#' then
      return (text, space.broken, cursor)
    let (word, isLast, after) ← plainWord inFlow cursor.fuel [] cursor
    let text := if word.isEmpty then text else word ++ space.folded.reverse ++ text
    let space := if word.isEmpty then space else Space.none
    if isLast then return (text, space.broken, after)
    let (space, behind) ← Space.take indent after.fuel space after
    if !inFlow && behind.column < indent then return (text, space.broken, behind)
    plainFrom inFlow indent fuel text space behind

def takePlain (inFlow : Bool) (indent : Nat) (cursor : Cursor) :
    Option (List Char × Bool × Cursor) := do
  let (text, broken, after) ← plainFrom inFlow indent cursor.fuel [] .none cursor
  return (text.reverse, broken, after)

/-! ## Quoted scalars -/

def hexValue? (c : Char) : Option Nat :=
  if '0' ≤ c && c ≤ '9' then some (c.toNat - 48)
  else if 'a' ≤ c && c ≤ 'f' then some (c.toNat - 87)
  else if 'A' ≤ c && c ≤ 'F' then some (c.toNat - 55)
  else none

/-- The character of a code point written in digits. -/
def codePoint? (digits : List Char) : Option Char := do
  let value := (← digits.mapM hexValue?).foldl (fun acc d => acc * 16 + d) 0
  if value > 0x10FFFF || (0xD800 ≤ value && value ≤ 0xDFFF) then failure
  return Char.ofNat value

/-- The character that a letter after a backslash stands for. -/
def escaped? : Char → Option Char
  | '0' => some '\x00'
  | 'a' => some '\x07'
  | 'b' => some '\x08'
  | 't' | '\t' => some '\t'
  | 'n' => some '\n'
  | 'v' => some '\x0b'
  | 'f' => some '\x0c'
  | 'r' => some '\r'
  | 'e' => some '\x1b'
  | ' ' => some ' '
  | '"' => some '"'
  | '/' => some '/'
  | '\\' => some '\\'
  | 'N' => some (Char.ofNat 0x85)
  | '_' => some (Char.ofNat 0xA0)
  | 'L' => some (Char.ofNat 0x2028)
  | 'P' => some (Char.ofNat 0x2029)
  | _ => none

/-- The number of digits after a letter that announces a code point. -/
def escapeDigits? : Char → Option Nat
  | 'x' => some 2
  | 'u' => some 4
  | 'U' => some 8
  | _ => none

/-- What follows a backslash, a line break apart. -/
def takeEscape (cursor : Cursor) : Option (Char × Cursor) := do
  let c ← cursor.peek?
  match escapeDigits? c with
  | some n =>
    let digits := (cursor.rest.drop 1).take n
    if digits.length < n then failure
    return (← codePoint? digits, cursor.skip (n + 1))
  | none => return (← escaped? c, cursor.next)

/-- One word of a quoted scalar, last character first. The flag tells whether it
ends in an escaped line break. -/
def quotedWord (quote : Char) :
    Nat → List Char → Cursor → Option (List Char × Bool × Cursor)
  | 0, _, _ => none
  | fuel + 1, word, cursor =>
    match cursor.peek? with
    | none => none
    | some c =>
      if isBlank c || isBreak c then some (word, false, cursor)
      else if c == quote then
        if quote == '\'' && cursor.peekAt? 1 == some '\'' then
          quotedWord quote fuel ('\'' :: word) (cursor.skip 2)
        else some (word, false, cursor)
      else if quote == '"' && c == '\\' then
        if (cursor.peekAt? 1).any isBreak then
          some (word, true, cursor.next.takeBreak.2)
        else do
          let (e, after) ← takeEscape cursor.next
          quotedWord quote fuel (e :: word) after
      else quotedWord quote fuel (c :: word) cursor.next

/-- A quoted scalar after its opening quote, last character first. -/
def quotedFrom (quote : Char) : Nat → List Char → Cursor → Option (List Char × Cursor)
  | 0, _, _ => none
  | fuel + 1, text, cursor => do
    if cursor.isAtDocumentMarker then failure
    let (word, escapedBreak, after) ← quotedWord quote cursor.fuel [] cursor
    let text := word ++ text
    if !escapedBreak && after.peek? == some quote then return (text, after.next)
    if after.isAtEnd then failure
    let (space, behind) ←
      Space.take 0 after.fuel { Space.none with broken := escapedBreak } after
    quotedFrom quote fuel (space.folded.reverse ++ text) behind

def takeQuoted (cursor : Cursor) : Option (List Char × Cursor) := do
  let quote ← cursor.peek?
  let (text, after) ← quotedFrom quote cursor.fuel [] cursor.next
  return (text.reverse, after)

/-! ## Block scalars -/

/-- What becomes of the line breaks at the end of a block scalar. -/
inductive Chomping where
  | strip
  | clip
  | keep
deriving DecidableEq

structure BlockHeader where
  chomping : Chomping
  /-- The indent relative to the surrounding one, if it is given. -/
  indent : Option Nat

def chompingMark? : Option Char → Option Chomping
  | some '+' => some .keep
  | some '-' => some .strip
  | _ => none

def indentDigit? : Option Char → Option Nat
  | some c => if c.isDigit then some (c.toNat - 48) else none
  | none => none

/-- The marks after the indicator, in either order; an indent of zero is malformed. -/
def takeBlockHeader (cursor : Cursor) : Option (BlockHeader × Cursor) := do
  let afterMark (c : Cursor) := if (chompingMark? c.peek?).isSome then c.next else c
  let afterDigit (c : Cursor) := if (indentDigit? c.peek?).isSome then c.next else c
  let (chomping, indent, after) :=
    match chompingMark? cursor.peek? with
    | some mark => (some mark, indentDigit? cursor.next.peek?, afterDigit cursor.next)
    | none =>
      let digit := indentDigit? cursor.peek?
      let behind := afterDigit cursor
      if digit.isSome then (chompingMark? behind.peek?, digit, afterMark behind)
      else (none, none, cursor)
  if indent == some 0 then failure
  return (⟨chomping.getD .clip, indent⟩, after)

/-- Over the indentation of empty lines up to the next line with text. An indent of
zero stands for one still to be found; `deepest` is the deepest column met. -/
def blockBreaks (indent : Nat) :
    Nat → List Char → Nat → Cursor → Option (List Char × Nat × Cursor)
  | 0, _, _, _ => none
  | fuel + 1, breaks, deepest, cursor =>
    let spaces := cursor.rest.takeWhile (· == ' ')
    let count := if indent == 0 then spaces.length
    else min spaces.length (indent - cursor.column)
    let cursor := cursor.skip count
    let deepest := max deepest cursor.column
    if (indent == 0 || cursor.column < indent) && cursor.peek? == some '\t' then none
    else if cursor.isAtBreak then
      let (text, after) := cursor.takeBreak
      blockBreaks indent fuel (breaks ++ text) deepest after
    else some (breaks, deepest, cursor)

/-- The lines of a block scalar, last character first. `last` is the break after the
line before, `breaks` the breaks after that one, and `wasBlank` tells whether that
line began with a blank. -/
def blockLines (literal : Bool) (indent : Nat) :
    Nat → List Char → List Char → List Char → Bool → Cursor →
      Option (List Char × List Char × List Char × Cursor)
  | 0, _, _, _, _, _ => none
  | fuel + 1, text, last, breaks, wasBlank, cursor =>
    if cursor.column == indent && !cursor.isAtEnd then do
      let isBlank := cursor.isAtBlank
      let joint :=
        if !literal && last == ['\n'] && !wasBlank && !isBlank then
          (if breaks.isEmpty then [' '] else []) ++ breaks
        else last ++ breaks
      let (line, after) := cursor.takeWhile fun c => !isBreak c
      let (last, behind) := after.takeBreak
      let (breaks, _, next) ← blockBreaks indent behind.fuel [] 0 behind
      blockLines literal indent fuel (line.reverse ++ joint.reverse ++ text) last
        breaks isBlank next
    else some (text, last, breaks, cursor)

/-- The style that the indicator of a block scalar announces. -/
def blockStyle (cursor : Cursor) : Style :=
  if cursor.peek? == some '|' then .literal else .folded

/-- A block scalar, with the indentation of the collection around it (none at the
top). -/
def takeBlock (parent : Option Nat)
    (cursor : Cursor) : Option (List Char × Cursor) := do
  let literal := blockStyle cursor == .literal
  let (header, after) ← takeBlockHeader cursor.next
  let after := (after.skipWhile isBlank).skipComment
  if !(after.isAtEnd || after.isAtBreak) then failure
  let body := after.takeBreak.2
  let known := match header.indent with
    | some n => parent.getD 0 + n
    | none => 0
  let (breaks, deepest, first) ← blockBreaks known body.fuel [] 0 body
  let least := match parent with
    | some p => p + 1
    | none => 1
  let indent := if known == 0 then max deepest least else known
  let (text, last, breaks, behind) ←
    blockLines literal indent first.fuel [] [] breaks false first
  let text := match header.chomping with
    | .strip => text.reverse
    | .clip => text.reverse ++ last
    | .keep => text.reverse ++ last ++ breaks
  return (text, behind)

end SchemaDeref.Yaml
