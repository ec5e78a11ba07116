import SchemaDeref.Deref.Run
import SchemaDeref.Text.Shown

/-!
# Notices

What a command tells about its work besides its result, as a message with named fields.
-/

namespace SchemaDeref

/-! ## Messages -/

/-- Control characters that a terminal obeys, line breaks and tabs apart. -/
def Text.steersTerminal (c : Char) : Bool :=
  c ∈ ['\x07', '\x08', '\x0c', '\x1b', '\x7f'] || (0x80 ≤ c.toNat && c.toNat ≤ 0x9F)

/-- A message in which such characters are written by number. -/
def Text.harmless (message : String) : String :=
  let written (c : Char) : String :=
    if !steersTerminal c then c.toString
    else if c.toNat < 0x10 then "\\x0" ++ hexadecimal c.toNat
    else if c.toNat < 0x80 then "\\x" ++ hexadecimal c.toNat
    else "\\u\x7b" ++ hexadecimal c.toNat ++ "\x7d"
  String.join (message.toList.map written)

/-! ## Notices -/

/-- A named text that belongs to a message. -/
structure Field where
  name : String
  text : String
  /-- The text is written between quotes. -/
  quoted : Bool
deriving DecidableEq, Repr

namespace Field

def line (field : Field) : String :=
  field.name ++ "=" ++ if field.quoted then Text.quoted field.text else field.text

end Field

structure Notice where
  message : String
  fields : List Field
deriving DecidableEq, Repr

namespace Notice

/-- Texts between quotes in a list. -/
def listText (texts : List String) : String :=
  "[" ++ ", ".intercalate (texts.map Text.quoted) ++ "]"

def ofWarning : Warning → Notice
  | .severalReferences kinds followed =>
    ⟨"schema node carries more than one reference keyword",
      [⟨"keywords", listText (kinds.map ReferenceKind.keyword), false⟩,
        ⟨"using", followed.keyword, true⟩]⟩
  | .loaderFailed uri error =>
    ⟨"external schema loader failed", [⟨"uri", uri, true⟩, ⟨"error", error, false⟩]⟩

/-- A circular reference that was kept, by its key. -/
def ofEdge (key : String) : Notice :=
  ⟨"circular reference left unexpanded", [⟨"edge", key, false⟩]⟩

/-- A notice as an entry of a log. -/
def line (notice : Notice) : String :=
  " ".intercalate ("WARN" :: notice.message :: notice.fields.map Field.line)

end Notice

end SchemaDeref
