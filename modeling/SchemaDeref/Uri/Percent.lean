/-!
# Percent-encoding

A character that may not stand in a part of a URI is written as the bytes of its
UTF-8 form, each as `%` and two digits. Which characters those are differs from part
to part.
-/

namespace SchemaDeref.Uri

/-! ## Sets of characters -/

/-- Control characters and everything beyond ASCII. -/
def isControlOrWide (c : Char) : Bool := c.toNat < 0x20 || c.toNat > 0x7E

def encodedInFragment (c : Char) : Bool :=
  isControlOrWide c || c ∈ [' ', '"', '<', '>', Char.ofNat 96]

def encodedInPath (c : Char) : Bool :=
  encodedInFragment c || c ∈ ['#', '?', '\x7b', '\x7d']

def encodedInUserinfo (c : Char) : Bool :=
  encodedInPath c || c ∈ ['/', ':', ';', '=', '@', '[', '\\', ']', '^', '|']

def encodedInQuery (c : Char) : Bool :=
  isControlOrWide c || c ∈ [' ', '"', '#', '<', '>']

/-- The query of a URI with a special scheme. -/
def encodedInSpecialQuery (c : Char) : Bool := encodedInQuery c || c == '\''

/-! ## Encoding -/

def upperHexDigit (n : Nat) : Char :=
  if n < 10 then Char.ofNat (48 + n) else Char.ofNat (55 + n)

def encodeByte (b : UInt8) : List Char :=
  ['%', upperHexDigit (b.toNat / 16), upperHexDigit (b.toNat % 16)]

/-- A character as it is written where `set` is not allowed. -/
def encodeChar (set : Char → Bool) (c : Char) : List Char :=
  if set c then c.toString.toUTF8.toList.flatMap encodeByte else [c]

def encode (set : Char → Bool) (chars : List Char) : String :=
  String.ofList (chars.flatMap (encodeChar set))

/-! ## Decoding -/

def hexDigit? (c : Char) : Option Nat :=
  if '0' ≤ c && c ≤ '9' then some (c.toNat - 48)
  else if 'a' ≤ c && c ≤ 'f' then some (c.toNat - 87)
  else if 'A' ≤ c && c ≤ 'F' then some (c.toNat - 55)
  else none

/-- The bytes a text stands for. A `%` without two digits stands for itself. -/
def decodeBytes : List Char → List UInt8
  | [] => []
  | '%' :: a :: b :: rest =>
    match hexDigit? a, hexDigit? b with
    | some high, some low => UInt8.ofNat (16 * high + low) :: decodeBytes rest
    | _, _ => 0x25 :: decodeBytes (a :: b :: rest)
  | c :: rest => c.toString.toUTF8.toList ++ decodeBytes rest

/-- The text that the bytes spell, if they are UTF-8. -/
def decode? (chars : List Char) : Option (List Char) :=
  (String.fromUTF8? ⟨(decodeBytes chars).toArray⟩).map String.toList

end SchemaDeref.Uri
