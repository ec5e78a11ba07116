/-!
# Texts

Classes of characters, blanks and plain letters, pieces, and what a reader leaves of
a text. A reader takes characters from the front and hands back the rest together
with the proof that it is no longer than the text; loops over readers end by that proof.
-/

namespace SchemaDeref

namespace Text

/-! ## Classes of characters -/

/-- A class as a table of closed ranges of code points in ascending order. -/
abbrev Ranges := Array (Nat × Nat)

/-- Whether a character is in one of the ranges. -/
def Ranges.covers (ranges : Ranges) (c : Char) : Bool :=
  ranges.any fun (first, last) => first ≤ c.toNat && c.toNat ≤ last

/-! ## Blanks and plain letters -/

/-- The characters with the property `White_Space`. -/
def isBlank (c : Char) : Bool :=
  let code := c.toNat
  (9 ≤ code && code ≤ 13) || code == 0x20 || code == 0x85 || code == 0xA0 ||
    code == 0x1680 ||
    (0x2000 ≤ code && code ≤ 0x200A) || code == 0x2028 || code == 0x2029 ||
      code == 0x202F ||
    code == 0x205F || code == 0x3000

/-- A text without the characters of a class at either end. -/
def trimChars (p : Char → Bool) (s : List Char) : List Char :=
  ((s.dropWhile p).reverse.dropWhile p).reverse

/-- A text without blanks at either end. -/
def trim (s : String) : String := String.ofList (trimChars isBlank s.toList)

/-- The text with its ASCII letters in lower case; other letters stay. -/
def lower (s : String) : String := s.map Char.toLower

/-! ## Splitting -/

/-- The pieces between separators: one more than there are separators. -/
def splitOn (separator : Char) : List Char → List (List Char)
  | [] => [[]]
  | c :: rest =>
    if c = separator then [] :: splitOn separator rest
    else
      match splitOn separator rest with
      | [] => [[c]]
      | piece :: others => (c :: piece) :: others

end Text

/-! ## Rests -/

/-- A rest of a text. -/
abbrev Remainder (text : List Char) :=
  { rest : List Char // rest.length ≤ text.length }

namespace Remainder

/-- Nothing taken. -/
def all (text : List Char) : Remainder text := ⟨text, Nat.le_refl _⟩

/-- The rest of a rest is a rest. -/
def trans {text : List Char} (r : Remainder text)
    (s : Remainder r.val) : Remainder text :=
  ⟨s.val, Nat.le_trans s.property r.property⟩

/-- A rest of a tail is a rest of the whole. -/
def ofTail {c : Char} {text : List Char}
    (r : Remainder text) : Remainder (c :: text) :=
  ⟨r.val, Nat.le_trans r.property (Nat.le_succ _)⟩

/-- The rest after the longest run of characters of a class. -/
def after (p : Char → Bool) (text : List Char) : Remainder text :=
  ⟨text.dropWhile p, (List.dropWhile_suffix p).length_le⟩

end Remainder

end SchemaDeref
