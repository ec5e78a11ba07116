import SchemaDeref.Yaml.Scalar

/-!
# Tags of a YAML text

A tag is written as a handle and a suffix, and a directive at the front of a
document may give a handle its meaning: the front part of the names written with it.
Names are bytes, which escapes spell as well as characters do; a byte of zero ends a
name.
-/

namespace SchemaDeref.Yaml

/-! ## Names -/

/-- The front part of a name up to a byte of zero. -/
def upToZero (bytes : List UInt8) : List UInt8 := bytes.takeWhile (· != 0)

/-- A byte written as a percent sign and two digits. -/
def takeOctet (cursor : Cursor) : Option (UInt8 × Cursor) := do
  match cursor.rest with
  | '%' :: a :: b :: _ =>
    return (UInt8.ofNat (16 * (← hexValue? a) + (← hexValue? b)), cursor.skip 3)
  | _ => failure

/-- The number of bytes behind the first byte of a character. -/
def trailingOctets? (first : UInt8) : Option Nat :=
  if first < 0x80 then some 0
  else if first < 0xC0 then none
  else if first < 0xE0 then some 1
  else if first < 0xF0 then some 2
  else if first < 0xF8 then some 3
  else none

def takeTrailingOctets : Nat → Cursor → Option (List UInt8 × Cursor)
  | 0, cursor => some ([], cursor)
  | count + 1, cursor => do
    let (octet, after) ← takeOctet cursor
    if octet < 0x80 || octet ≥ 0xC0 then failure
    let (octets, behind) ← takeTrailingOctets count after
    return (octet :: octets, behind)

/-- The escaped bytes of one character. -/
def takeOctets (cursor : Cursor) : Option (List UInt8 × Cursor) := do
  let (first, after) ← takeOctet cursor
  let (others, behind) ← takeTrailingOctets (← trailingOctets? first) after
  return (first :: others, behind)

/-- Characters of a name; an `open` name stands where no mark of a flow collection
can follow. -/
def isTagChar (isOpen : Bool) (c : Char) : Bool :=
  isNameChar c ||
    c ∈ [';', '/', '?', ':', '@', '&', '=', '+', '$', '.', '%', '!', '~', '*', '\'',
      '(', ')'] ||
    (isOpen && c ∈ [',', '[', ']'])

/-- A name as long as it goes, last part first. -/
def tagNameFrom (isOpen : Bool) : Nat → List (List UInt8) → Cursor →
    Option (List (List UInt8) × Cursor)
  | 0, _, _ => none
  | fuel + 1, parts, cursor =>
    match cursor.peek? with
    | none => some (parts, cursor)
    | some c =>
      if !isTagChar isOpen c then some (parts, cursor)
      else if c == '%' then do
        let (octets, after) ← takeOctets cursor
        tagNameFrom isOpen fuel (octets :: parts) after
      else tagNameFrom isOpen fuel (c.toString.toUTF8.toList :: parts) cursor.next

/-- A name of any length. -/
def takeTagName (isOpen : Bool) (cursor : Cursor) : Option (List UInt8 × Cursor) := do
  let (parts, after) ← tagNameFrom isOpen cursor.fuel [] cursor
  return (parts.reverse.flatten, after)

/-- A name that is not left out. -/
def takeSomeTagName (isOpen : Bool)
    (cursor : Cursor) : Option (List UInt8 × Cursor) := do
  if !cursor.peek?.any (isTagChar isOpen) then failure
  let (name, after) ← takeTagName isOpen cursor
  return (upToZero name, after)

/-! ## Handles -/

/-- An exclamation mark, the letters behind it, and another mark if it follows them. -/
def takeHandle (cursor : Cursor) : Option (List Char × Cursor) := do
  if cursor.peek? != some '!' then failure
  let (letters, after) := cursor.next.takeWhile isNameChar
  if after.peek? == some '!' then return ('!' :: letters ++ ['!'], after.next)
  else return ('!' :: letters, after)

/-- Whether what was taken is a handle with a name of its own. -/
def isNamedHandle (handle : List Char) : Bool :=
  handle.length > 1 && handle.getLast? == some '!'

/-- A tag as it is written: a handle, which is empty where the name is given in
full, and the name behind it. -/
structure WrittenTag where
  handle : String
  suffix : List UInt8
deriving DecidableEq, Repr

namespace WrittenTag

/-- A name in full. -/
def full (name : List UInt8) : WrittenTag := ⟨"", name⟩

/-- The name of the lone exclamation mark. -/
def markName : List UInt8 := "!".toUTF8.toList

/-- A name between angle brackets, a name behind a handle, or a name behind a single
mark. -/
def take (cursor : Cursor) : Option (WrittenTag × Cursor) := do
  if cursor.peekAt? 1 == some '<' then
    let (name, after) ← takeSomeTagName true (cursor.skip 2)
    if after.peek? != some '>' then failure
    return (full name, after.next)
  let (handle, after) ← takeHandle cursor
  if isNamedHandle handle then
    let (suffix, behind) ← takeSomeTagName false after
    return (⟨String.ofList handle, suffix⟩, behind)
  else
    let (suffix, behind) ← takeTagName false after
    let name := upToZero ((String.ofList (handle.drop 1)).toUTF8.toList ++ suffix)
    return (if name.isEmpty then full markName else ⟨"!", name⟩, behind)

end WrittenTag

/-! ## Directives -/

/-- What a line at the front of a document says of it. -/
inductive Directive where
  | version (major minor : Nat)
  /-- What the names behind a handle begin with. -/
  | handle (handle : String) (front : List UInt8)
deriving DecidableEq, Repr

namespace Directive

/-- The longest number of a version. -/
def longestNumber : Nat := 9

def takeNumber (cursor : Cursor) : Option (Nat × Cursor) := do
  let (digits, after) := cursor.takeWhile Char.isDigit
  if digits.isEmpty || digits.length > longestNumber then failure
  return (digits.foldl (fun acc d => acc * 10 + (d.toNat - 48)) 0, after)

def takeVersion (cursor : Cursor) : Option (Directive × Cursor) := do
  let (major, after) ← takeNumber (cursor.skipWhile isBlank)
  if after.peek? != some '.' then failure
  let (minor, behind) ← takeNumber after.next
  return (.version major minor, behind)

def takeHandleMeaning (cursor : Cursor) : Option (Directive × Cursor) := do
  let (name, after) ← takeHandle (cursor.skipWhile isBlank)
  if !(isNamedHandle name || name.length == 1) || !after.isAtBlank then failure
  let (front, behind) ← takeSomeTagName true (after.skipWhile isBlank)
  if !behind.isAtGap then failure
  return (.handle (String.ofList name) front, behind)

/-- A directive after its percent sign, to the end of its line. -/
def take (cursor : Cursor) : Option (Directive × Cursor) := do
  let (name, after) := cursor.takeWhile isNameChar
  if !after.isAtGap then failure
  let (directive, behind) ←
    match String.ofList name with
    | "YAML" => takeVersion after
    | "TAG" => takeHandleMeaning after
    | _ => none
  let behind := (behind.skipWhile isBlank).skipComment
  if !(behind.isAtEnd || behind.isAtBreak) then failure
  return (directive, behind.takeBreak.2)

end Directive

end SchemaDeref.Yaml
