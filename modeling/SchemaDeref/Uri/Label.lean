import SchemaDeref.Text.Composed
import SchemaDeref.Text.Cursive
import SchemaDeref.Text.Direction
import SchemaDeref.Text.Fold
import SchemaDeref.Uri.Address
import SchemaDeref.Uri.Punycode

/-!
# Domain names

A domain name is a row of labels with dots between them. A label of other than ASCII
letters is written in Punycode behind `xn--`, and whatever is written so has to
spell a label in its proper form: folded, composed, not begun by a mark, and with
joiners only where they do something. In a name with letters that run from right to
left no label may change its direction.
-/

namespace SchemaDeref.Uri

open SchemaDeref.Text

/-- A label as it is written in ASCII, and what it spells. -/
structure Label where
  written : List Char
  spelled : List Char
deriving DecidableEq, Repr

namespace Label

/-- What begins a label in Punycode. -/
def mark : List Char := ['x', 'n', '-', '-']

/-- A spelling may be this long, -/
def longestSpelling : Nat := 2000

/-- and this long what it spells. -/
def longestText : Nat := 1000

/-! ## The proper form -/

/-- Whether joiners stand behind a letter that asks for one, or between cursive
letters that join each other. `before` is what has been read, the last of it first. -/
def joinersFit (before : List Char) : List Char → Bool
  | [] => true
  | c :: rest =>
    let fits :=
      match before with
      | [] => false
      | last :: _ =>
        markOrder last == 9 ||
          c.toNat == 0x200C &&
            (before.find? fun d => joinsAhead d || !isTransparent d).any joinsAhead &&
            (rest.find? fun d => joinsBack d || !isTransparent d).any joinsBack
    (!isJoiner c || fits) && joinersFit (c :: before) rest

/-- Whether a text is a label in its proper form. -/
def isProper (text : List Char) : Bool :=
  text.all (fun c => fold? c == some [c]) && compose text == text &&
    !text.head?.any isMark &&
    joinersFit [] text && text.length ≤ longestText

/-- The label that is written in ASCII. -/
def ofAscii? (written : List Char) : Option Label :=
  if mark.isPrefixOf written then do
    let spelling := written.drop mark.length
    if written.getLast? == some '-' || spelling.length > longestSpelling then failure
    let spelled ← Punycode.decode? spelling
    if isProper spelled then return ⟨written, spelled⟩ else failure
  else some ⟨written, written⟩

/-- The label for a folded text. -/
def ofFolded? (folded : List Char) : Option Label :=
  if folded.all (·.toNat < 128) then ofAscii? folded
  else
    let text := compose folded
    if isProper text && !mark.isPrefixOf text then
      some ⟨mark ++ Punycode.encode text, text⟩
    else none

/-! ## Direction -/

/-- Whether a label runs from right to left, at least in part. -/
def turns (label : Label) : Bool :=
  label.spelled.any fun c => Direction.ofChar c ∈ [.rightToLeft, .arabicNumber]

/-- Whether a label runs in one direction, to its end and with numbers of one kind. -/
def keepsDirection (label : Label) : Bool :=
  match label.spelled.map Direction.ofChar with
  | [] => true
  | first :: rest =>
    match first, (rest.reverse.dropWhile (· == .nonspacing)) with
    | .leftToRight, [] | .rightToLeft, [] => true
    | .leftToRight, last :: inner =>
      last ∈ [.leftToRight, .europeanNumber] &&
        inner.all fun d => d != .rightToLeft && d != .arabicNumber
    | .rightToLeft, last :: inner =>
      last ∈ [.rightToLeft, .europeanNumber, .arabicNumber] &&
        inner.all (· != .leftToRight) &&
        !(Direction.europeanNumber ∈ last :: inner &&
          Direction.arabicNumber ∈ last :: inner)
    | _, _ => false

end Label

/-- The labels of a name. -/
def labels? (name : List Char) : Option (List Label) := do
  let folded ← name.mapM fold?
  let labels ← (Text.splitOn '.' folded.flatten).mapM Label.ofFolded?
  if labels.any Label.turns && !labels.all Label.keepsDirection then failure
  return labels

/-- A domain name in ASCII. -/
def domainName? (name : List Char) : Option (List Char) :=
  (labels? name).map fun labels => ['.'].intercalate (labels.map Label.written)

end SchemaDeref.Uri
