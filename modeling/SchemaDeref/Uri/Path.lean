import SchemaDeref.Uri.Percent

/-!
# Paths

A path is a list of segments, each written with a slash in front. Reading a path
drops `.`, lets `..` take the segment before it away, and under the scheme `file`
keeps drive letters in place.
-/

namespace SchemaDeref.Uri

/-- What sets one scheme apart from another. -/
structure SchemeKind where
  /-- One of the schemes whose URIs always have an authority; `\` is read as `/`. -/
  isSpecial : Bool
  isFile : Bool
deriving DecidableEq, Repr

namespace Path

/-! ## Segments of a special meaning -/

/-- A letter and a colon, or a bar that stands for one. -/
def isDriveLetter : List Char → Bool
  | [letter, mark] => letter.isAlpha && (mark == ':' || mark == '|')
  | _ => false

def isNormalDriveLetter : List Char → Bool
  | [letter, ':'] => letter.isAlpha
  | _ => false

/-- Whether a text starts with a drive letter that is a segment of its own. -/
def startsWithDriveLetter : List Char → Bool
  | letter :: mark :: rest =>
    isDriveLetter [letter, mark] &&
      (rest.isEmpty || rest.head?.any (· ∈ ['/', '\\', '?', '#']))
  | _ => false

/-- A segment with every encoded dot decoded. -/
def plainDots : List Char → List Char
  | '%' :: '2' :: 'e' :: rest | '%' :: '2' :: 'E' :: rest => '.' :: plainDots rest
  | c :: rest => c :: plainDots rest
  | [] => []

def isSingleDot (segment : List Char) : Bool := plainDots segment == ['.']

def isDoubleDot (segment : List Char) : Bool := plainDots segment == ['.', '.']

/-! ## Reading -/

/-- Characters that a URI may be broken with anywhere. They count for nothing, apart
from a drive letter in front of them. -/
def isBreak (c : Char) : Bool := c == '\t' || c == '\n' || c == '\r'

/-- A path that is being read. -/
structure State where
  /-- The finished segments, last first. -/
  done : List String
  /-- A drive letter that the open segment continues without a slash between. -/
  lead : List Char
  /-- The open segment stands for itself, even if it looks like dots. -/
  literal : Bool
  /-- A drive letter has been seen at the front. -/
  drive : Bool

namespace State

/-- Takes the last segment away, unless it looks like a drive letter. -/
def pop (state : State) : State :=
  match state.done with
  | [] => state
  | last :: rest =>
    if startsWithDriveLetter last.toList then state else { state with done := rest }

/-- A finished segment. -/
def push (state : State) (segment : List Char) : State :=
  { state with
    done := String.ofList segment :: state.done, lead := [], literal := false }

/-- The drive letter at the front of the open segment becomes a segment of its own. -/
def pushLead (state : State) : State :=
  if state.lead.isEmpty then { state with literal := false }
  else state.push state.lead

/-- A dot segment at the end of the path leaves an empty one behind. -/
def endDots (state : State) (isLast : Bool) : State := if isLast then state.push []
else state

/-- Ends a segment. -/
def close (kind : SchemeKind) (state : State) (segment : List Char)
    (isLast : Bool) : State :=
  if !state.literal && isDoubleDot segment then
    if state.lead.isEmpty then state.pop.endDots isLast else state.pushLead
  else if !state.literal && isSingleDot segment then state.pushLead.endDots isLast
  else if kind.isFile && state.done.isEmpty && state.lead.isEmpty &&
    isDriveLetter segment then
    { state.push (segment.take 1 ++ [':']) with drive := true }
  else state.push (state.lead ++ segment)

/-- Whether a drive letter is all that the path holds so far, so that any further
character begins a new segment. It must have been there before, or else a break must
have followed it. -/
def isDriveAlone (kind : SchemeKind) (state : State) (current : List Char)
    (broken : Bool) :
    Bool :=
  kind.isFile && state.done.isEmpty &&
    isNormalDriveLetter (state.lead ++ current.reverse) &&
    (broken || current.isEmpty)

/-- A drive letter that is all of the path becomes its first segment. Behind a
break, what follows stands for itself. -/
def splitDrive (state : State) (current : List Char) : State :=
  { state.push (state.lead ++ current.reverse) with literal := !current.isEmpty }

end State

/-- Reads segments up to a query, a fragment or the end. `current` is the open
segment in reverse, and `broken` tells that a break stands before the text. -/
def readFrom (kind : SchemeKind) (state : State) (current : List Char)
    (broken : Bool) :
    List Char → State × List Char
  | [] => (state.close kind current.reverse true, [])
  | c :: rest =>
    if isBreak c then readFrom kind state current true rest
    else if c == '/' || (kind.isSpecial && c == '\\') then
      readFrom kind (state.close kind current.reverse false) [] false rest
    else if c == '?' || c == '#' then
      (state.close kind current.reverse true, c :: rest)
    else
      let written := (encodeChar encodedInPath c).reverse
      if state.isDriveAlone kind current broken then
        readFrom kind (state.splitDrive current) written false rest
      else readFrom kind state (written ++ current) false rest

/-- Empty segments at the front of a file path are dropped, all but the last segment. -/
def dropEmptyFront : List String → List String
  | "" :: s :: rest => dropEmptyFront (s :: rest)
  | segments => segments

/-- What a path continues: finished segments, and a drive letter that its first
segment joins. -/
structure Folder where
  segments : List String
  lead : List Char

/-- The front of a path that continues nothing. -/
def Folder.root : Folder := ⟨[], []⟩

/-- A path that was read. -/
structure Reading where
  segments : List String
  hasDrive : Bool
  rest : List Char

/-- Reads a path inside a folder, after its first slash. -/
def read (kind : SchemeKind) (folder : Folder) (text : List Char) : Reading :=
  let (state, rest) :=
    readFrom kind ⟨folder.segments.reverse, folder.lead, false, false⟩ [] false
    text
  let segments := state.done.reverse
  ⟨if kind.isFile then dropEmptyFront segments else segments, state.drive, rest⟩

/-- What is left of a path for a relative one to continue: all but its last segment,
though a file path keeps a drive letter, with no slash behind it. -/
def folder (kind : SchemeKind) (segments : List String) : Folder :=
  match segments.getLast? with
  | some last =>
    if kind.isFile && isNormalDriveLetter last.toList then
      ⟨segments.dropLast, last.toList⟩
    else ⟨segments.dropLast, []⟩
  | none => .root

end Path

end SchemaDeref.Uri
