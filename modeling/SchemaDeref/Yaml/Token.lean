import SchemaDeref.Yaml.Tag

/-!
# Tokens of a YAML text

Blocks have no brackets in the text; their beginnings and ends follow from the
indentation. A key without an indicator is recognised only by the colon behind it,
so the place of every token that may turn out to be a key is kept until the colon,
the end of the line, or a token that rules it out.
-/

namespace SchemaDeref.Yaml

inductive Token where
  | directive (directive : Directive)
  | documentStart
  | documentEnd
  | blockSequenceStart
  | blockMappingStart
  | blockEnd
  | flowSequenceStart
  | flowSequenceEnd
  | flowMappingStart
  | flowMappingEnd
  | blockEntry
  | flowEntry
  | key
  | value
  | alias (name : String)
  | anchor (name : String)
  | tag (tag : WrittenTag)
  | scalar (text : String) (style : Style)
  | streamEnd
deriving DecidableEq, Repr

/-- A token that may turn out to begin a key. -/
structure KeyPlace where
  /-- The number of tokens before it. -/
  tokens : Nat
  /-- The number of bytes before it. -/
  offset : Nat
  line : Nat
  column : Nat
  /-- Nothing else may stand there. -/
  required : Bool

/-- A text that has been read in part. -/
structure Scan where
  cursor : Cursor
  /-- The tokens so far, last first, and their number. -/
  tokens : List Token
  count : Nat
  /-- The indents of the open blocks, innermost first. -/
  indents : List Nat
  /-- The possible key of every open flow collection and of the block around them,
  innermost first. -/
  places : List (Option KeyPlace)
  /-- Whether a key may begin at the cursor. -/
  keyAllowed : Bool

namespace Scan

def start (text : List Char) : Scan := ⟨.start text, [], 0, [], [none], true⟩

def inFlow (scan : Scan) : Bool := scan.places.length > 1

def push (scan : Scan) (token : Token) : Scan :=
  { scan with tokens := token :: scan.tokens, count := scan.count + 1 }

/-- Puts a token in front of the token number `place`. -/
def insert (scan : Scan) (place : Nat) (token : Token) : Scan :=
  let behind := scan.count - place
  { scan with
    tokens := scan.tokens.take behind ++ token :: scan.tokens.drop behind
    count := scan.count + 1 }

def moveTo (scan : Scan) (cursor : Cursor) : Scan := { scan with cursor }

def allowKey (scan : Scan) (allowed : Bool) : Scan :=
  { scan with keyAllowed := allowed }

/-! ## Indentation -/

/-- The indent of the innermost block is left of `column`. -/
def isIndentBelow (scan : Scan) (column : Nat) : Bool :=
  match scan.indents with
  | [] => true
  | indent :: _ => indent < column

/-- Opens a block at a column, unless the innermost block is there already. -/
def openBlock (scan : Scan) (column place : Nat) (token : Token) : Scan :=
  if !scan.inFlow && scan.isIndentBelow column then
    { scan with indents := column :: scan.indents }.insert place token
  else scan

/-- Closes the blocks that are indented deeper than `column`. -/
def closeBlocks (scan : Scan) (column : Nat) : Scan :=
  if scan.inFlow then scan
  else
    let closed := scan.indents.takeWhile (column < ·)
    closed.foldl (fun scan _ => scan.push .blockEnd)
      { scan with indents := scan.indents.dropWhile (column < ·) }

def closeAllBlocks (scan : Scan) : Scan :=
  if scan.inFlow then scan
  else scan.indents.foldl (fun scan _ => scan.push .blockEnd) { scan with
    indents := [] }

/-! ## Possible keys -/

/-- A possible key is none any more; malformed if nothing else may stand there. -/
def dropPlace (scan : Scan) : Option Scan :=
  match scan.places with
  | some place :: outer =>
    if place.required then none else some { scan with places := none :: outer }
  | _ => some scan

/-- The next token may begin a key. -/
def markPlace (scan : Scan) : Option Scan :=
  if !scan.keyAllowed then some scan
  else do
    let scan ← scan.dropPlace
    let cursor := scan.cursor
    let required := !scan.inFlow && scan.indents.head? == some cursor.column
    let place : KeyPlace :=
      ⟨scan.count, cursor.offset, cursor.line, cursor.column, required⟩
    return { scan with places := some place :: scan.places.drop 1 }

/-- The bytes that a key may take up to the colon behind it. -/
def longestKey : Nat := 1024

/-- Keys end on the line they begin on, and within so many bytes. -/
def dropStale (scan : Scan) : Option Scan := do
  let places ← scan.places.mapM fun place =>
    match place with
    | none => some none
    | some p =>
      if p.line < scan.cursor.line || p.offset + longestKey < scan.cursor.offset then
        if p.required then none else some none
      else some (some p)
  return { scan with places }

/-! ## Between tokens -/

/-- Over a mark of the byte order at the front of a line. -/
def skipOrderMark (cursor : Cursor) : Cursor :=
  if cursor.column == 0 && cursor.peek? == some (Char.ofNat 0xFEFF) then cursor.next
  else cursor

/-- Over blanks, comments and line breaks. Outside of flow collections tabs do not
indent, and every new line may begin a key. -/
def skipSpace : Nat → Scan → Scan
  | 0, scan => scan
  | fuel + 1, scan =>
    let tabs := scan.inFlow || !scan.keyAllowed
    let isSkipped (c : Char) : Bool := c == ' ' || (tabs && c == '\t')
    let cursor := ((skipOrderMark scan.cursor).skipWhile isSkipped).skipComment
    if cursor.isAtBreak then
      skipSpace fuel { scan with
        cursor := cursor.takeBreak.2
        keyAllowed := scan.keyAllowed || !scan.inFlow }
    else { scan with cursor }

/-! ## Single tokens -/

/-- A token of so many characters. -/
def mark (scan : Scan) (length : Nat) (token : Token) : Scan :=
  (scan.moveTo (scan.cursor.skip length)).push token

/-- A mark at the border of documents; it ends all blocks. -/
def readDocumentMarker (scan : Scan) (token : Token) : Option Scan := do
  let scan ← scan.closeAllBlocks.dropPlace
  return (scan.allowKey false).mark 3 token

/-- A directive takes its line. -/
def readDirective (scan : Scan) : Option Scan := do
  let scan ← scan.closeAllBlocks.dropPlace
  let (directive, after) ← Directive.take scan.cursor.next
  return ((scan.allowKey false).moveTo after).push (.directive directive)

def openFlow (scan : Scan) (token : Token) : Option Scan := do
  let scan ← scan.markPlace
  return ({ scan with places := none :: scan.places }.allowKey true).mark 1 token

def closeFlow (scan : Scan) (token : Token) : Option Scan := do
  let scan ← scan.dropPlace
  let places := if scan.inFlow then scan.places.drop 1 else scan.places
  return ({ scan with places }.allowKey false).mark 1 token

def readFlowEntry (scan : Scan) : Option Scan := do
  let scan ← scan.dropPlace
  return (scan.allowKey true).mark 1 .flowEntry

def readBlockEntry (scan : Scan) : Option Scan := do
  if !scan.inFlow && !scan.keyAllowed then none
  let scan := scan.openBlock scan.cursor.column scan.count .blockSequenceStart
  let scan ← scan.dropPlace
  return (scan.allowKey true).mark 1 .blockEntry

def readKey (scan : Scan) : Option Scan := do
  if !scan.inFlow && !scan.keyAllowed then none
  let scan := scan.openBlock scan.cursor.column scan.count .blockMappingStart
  let scan ← scan.dropPlace
  return (scan.allowKey (!scan.inFlow)).mark 1 .key

/-- A colon. It makes the token at the kept place a key, if there is one. -/
def readValue (scan : Scan) : Option Scan :=
  match scan.places with
  | some place :: outer =>
    let scan := { scan with places := none :: outer }.insert place.tokens .key
    let scan := scan.openBlock place.column place.tokens .blockMappingStart
    some ((scan.allowKey false).mark 1 .value)
  | _ =>
    if !scan.inFlow && !scan.keyAllowed then none
    else
      let scan := scan.openBlock scan.cursor.column scan.count .blockMappingStart
      some ((scan.allowKey (!scan.inFlow)).mark 1 .value)

/-- The name after the mark of an anchor or an alias. -/
def readName (scan : Scan) (token : String → Token) : Option Scan := do
  let scan ← scan.markPlace
  let (name, after) := scan.cursor.next.takeWhile isNameChar
  let ended := after.isAtGap ||
    after.peek?.any (· ∈ ['?', ':', ',', ']', '\x7d', '%', '@', Char.ofNat 96])
  if name.isEmpty || !ended then none
  return ((scan.allowKey false).moveTo after).push (token (String.ofList name))

/-- A tag, up to the next gap or the comma of a flow collection. -/
def readTag (scan : Scan) : Option Scan := do
  let scan ← scan.markPlace
  let (tag, after) ← WrittenTag.take scan.cursor
  if !(after.isAtGap || (scan.inFlow && after.peek? == some ',')) then none
  return ((scan.allowKey false).moveTo after).push (.tag tag)

def readBlockScalar (scan : Scan) : Option Scan := do
  let scan ← scan.dropPlace
  let (text, after) ← takeBlock scan.indents.head? scan.cursor
  let token := Token.scalar (String.ofList text) (blockStyle scan.cursor)
  return ((scan.allowKey true).moveTo after).push token

def readQuoted (scan : Scan) : Option Scan := do
  let scan ← scan.markPlace
  let (text, after) ← takeQuoted scan.cursor
  return ((scan.allowKey false).moveTo after).push
    (.scalar (String.ofList text) .quoted)

def readPlain (scan : Scan) : Option Scan := do
  let scan ← scan.markPlace
  let indent := match scan.indents with
    | [] => 0
    | i :: _ => i + 1
  let (text, broken, after) ← takePlain scan.inFlow indent scan.cursor
  return ((scan.allowKey broken).moveTo after).push
    (.scalar (String.ofList text) .plain)

/-- Characters that cannot begin a plain scalar, or can only where no gap follows. -/
def isIndicator (c : Char) : Bool :=
  isFlowMark c || c ∈ ['-', '?', ':', '#', '&', '*', '!', '|', '>', '\'',
    '"', '%', '@', Char.ofNat 96]

def startsPlain (scan : Scan) (c : Char) : Bool :=
  let next := scan.cursor.peekAt? 1
  !(Yaml.isBlank c || isIndicator c) || (c == '-' && !next.any Yaml.isBlank) ||
    (!scan.inFlow && (c == '?' || c == ':') && !isGap next)

/-! ## The whole text -/

/-- The token that begins with a character. -/
def readToken (scan : Scan) (c : Char) : Option Scan :=
  let gap := isGap (scan.cursor.peekAt? 1)
  if scan.cursor.column == 0 && c == '%' then scan.readDirective
  else if scan.cursor.isAtMarker '-' then scan.readDocumentMarker .documentStart
  else if scan.cursor.isAtMarker '.' then scan.readDocumentMarker .documentEnd
  else if c == '[' then scan.openFlow .flowSequenceStart
  else if c == '\x7b' then scan.openFlow .flowMappingStart
  else if c == ']' then scan.closeFlow .flowSequenceEnd
  else if c == '\x7d' then scan.closeFlow .flowMappingEnd
  else if c == ',' then scan.readFlowEntry
  else if c == '-' && gap then scan.readBlockEntry
  else if c == '?' && (scan.inFlow || gap) then scan.readKey
  else if c == ':' && (scan.inFlow || gap) then scan.readValue
  else if c == '*' then scan.readName .alias
  else if c == '&' then scan.readName .anchor
  else if c == '!' then scan.readTag
  else if (c == '|' || c == '>') && !scan.inFlow then scan.readBlockScalar
  else if c == '\'' || c == '"' then scan.readQuoted
  else if scan.startsPlain c then scan.readPlain
  else none

/-- Reads tokens to the end of the text; every turn takes one character at least. -/
def run : Nat → Scan → Option Scan
  | 0, _ => none
  | fuel + 1, scan => do
    let scan := scan.skipSpace scan.cursor.fuel
    let scan ← scan.dropStale
    let scan := scan.closeBlocks scan.cursor.column
    match scan.cursor.peek? with
    | none =>
      let scan ← scan.closeAllBlocks.dropPlace
      return scan.push .streamEnd
    | some c => run fuel (← scan.readToken c)

end Scan

/-- The tokens of a text; none if it is malformed. -/
def tokens (text : String) : Option (List Token) := do
  let chars := text.toList
  if !chars.all isAllowed then failure
  let scan ← (Scan.start chars).run (chars.length + 1)
  return scan.tokens.reverse

end SchemaDeref.Yaml
