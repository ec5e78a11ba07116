/-!
# The parts of a reference

A reference is split at its first `#` into the document it names and the place
inside that document.
-/

namespace SchemaDeref

/-- A reference taken apart. -/
structure ReferenceParts where
  /-- What stands before the first `#`, if anything does. -/
  uri : Option String
  /-- What stands after it; present, perhaps empty, exactly when there is a `#`. -/
  fragment : Option String
deriving DecidableEq, Repr

namespace ReferenceParts

/-- A text that is present unless it is empty. -/
def nonEmpty (chars : List Char) : Option String :=
  if chars.isEmpty then none else some (String.ofList chars)

def ofString (reference : String) : ReferenceParts :=
  let chars := reference.toList
  let front := chars.takeWhile (· != '#')
  match chars.dropWhile (· != '#') with
  | [] => ⟨nonEmpty front, none⟩
  | _ :: fragment => ⟨nonEmpty front, some (String.ofList fragment)⟩

/-- Whether the parts name the whole of the document they are written in. -/
def isRoot (parts : ReferenceParts) : Bool :=
  parts.uri.isNone && (parts.fragment.getD "").isEmpty

end ReferenceParts

end SchemaDeref
