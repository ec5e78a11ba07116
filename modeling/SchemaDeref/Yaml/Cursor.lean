/-!
# Positions in a YAML text

A cursor is the rest of a text with the place where it starts. Indentation decides
what a text means, so every step keeps count of lines and columns.
-/

namespace SchemaDeref.Yaml

/-! ## Characters -/

/-- Characters a text may hold. -/
def isAllowed (c : Char) : Bool :=
  let code := c.toNat
  code == 0x09 || code == 0x0A || code == 0x0D || (0x20 ≤ code && code ≤ 0x7E) ||
    code == 0x85 ||
    (0xA0 ≤ code && code ≤ 0xFFFD) || 0x10000 ≤ code

def isBreak (c : Char) : Bool :=
  c == '\n' || c == '\r' || c.toNat == 0x85 || c.toNat == 0x2028 || c.toNat == 0x2029

def isBlank (c : Char) : Bool := c == ' ' || c == '\t'

/-- What ends a word: a blank, a line break, or the end of the text. -/
def isGap : Option Char → Bool
  | none => true
  | some c => isBlank c || isBreak c

/-- Marks of flow collections. -/
def isFlowMark (c : Char) : Bool := c ∈ [',', '[', ']', '\x7b', '\x7d']

/-- Characters of the names of anchors. -/
def isNameChar (c : Char) : Bool := c.isAlphanum || c == '_' || c == '-'

/-! ## Cursors -/

structure Cursor where
  rest : List Char
  /-- The number of characters before the cursor and behind it. -/
  size : Nat
  /-- The number of characters before the cursor. -/
  index : Nat
  /-- The number of bytes before the cursor. -/
  offset : Nat
  line : Nat
  column : Nat

namespace Cursor

def start (text : List Char) : Cursor := ⟨text, text.length, 0, 0, 0, 0⟩

/-- Enough fuel for a loop over the rest that takes a character a turn. -/
def fuel (cursor : Cursor) : Nat := cursor.size - cursor.index + 1

def peek? (cursor : Cursor) : Option Char := cursor.rest.head?

def peekAt? (cursor : Cursor) (n : Nat) : Option Char := cursor.rest[n]?

def isAtEnd (cursor : Cursor) : Bool := cursor.rest.isEmpty

/-- The number of bytes of a text. -/
def width (chars : List Char) : Nat := chars.foldl (fun acc c => acc + c.utf8Size) 0

/-- So many characters further on a line. -/
def skip (cursor : Cursor) (n : Nat) : Cursor :=
  { cursor with
    rest := cursor.rest.drop n
    index := cursor.index + n
    offset := cursor.offset + width (cursor.rest.take n)
    column := cursor.column + n }

/-- One character further on a line. -/
def next (cursor : Cursor) : Cursor := cursor.skip 1

def isAtGap (cursor : Cursor) : Bool := isGap cursor.peek?

def isAtBreak (cursor : Cursor) : Bool := cursor.peek?.any isBreak

def isAtBlank (cursor : Cursor) : Bool := cursor.peek?.any isBlank

/-- The beginning of the next line, behind a break of so many characters. -/
def nextLine (cursor : Cursor) (length : Nat) : Cursor :=
  { cursor.skip length with line := cursor.line + 1, column := 0 }

/-- Over a line break, with the text it stands for. The two separators of Unicode
stand for themselves, all others for a line feed. -/
def takeBreak (cursor : Cursor) : List Char × Cursor :=
  match cursor.rest with
  | '\r' :: '\n' :: _ => (['\n'], cursor.nextLine 2)
  | c :: _ =>
    if isBreak c then
      ([if c.toNat == 0x2028 || c.toNat == 0x2029 then c else '\n'],
        cursor.nextLine 1)
    else ([], cursor)
  | [] => ([], cursor)

/-- Over the characters of a class on one line. -/
def takeWhile (cursor : Cursor) (p : Char → Bool) : List Char × Cursor :=
  let taken := cursor.rest.takeWhile p
  (taken, cursor.skip taken.length)

def skipWhile (cursor : Cursor) (p : Char → Bool) : Cursor := (cursor.takeWhile p).2

/-- Over a comment, up to the end of its line. -/
def skipComment (cursor : Cursor) : Cursor :=
  if cursor.peek? == some '#' then cursor.skipWhile fun c => !isBreak c else cursor

/-- Whether three equal characters start the line and end there as a word. -/
def isAtMarker (cursor : Cursor) (c : Char) : Bool :=
  cursor.column == 0 && cursor.rest.take 3 == [c, c, c] && isGap (cursor.peekAt? 3)

/-- Whether a mark stands here that begins or ends a document. -/
def isAtDocumentMarker (cursor : Cursor) : Bool :=
  cursor.isAtMarker '-' || cursor.isAtMarker '.'

end Cursor

end SchemaDeref.Yaml
