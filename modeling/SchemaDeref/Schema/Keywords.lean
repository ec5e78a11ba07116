import SchemaDeref.Schema.Basic

/-!
# Reading an object's keywords

Identifiers, anchors and references count only when they are strings
(`$recursiveAnchor` only when it is `true`); anything else under those names is data
without meaning.
-/

namespace SchemaDeref

variable {ι : Type}

/-- A reference as an object writes it. -/
structure Reference where
  kind : ReferenceKind
  target : String
deriving DecidableEq, Repr

namespace Keywords

/-- The value of a keyword if it is a string. -/
def string? (keywords : Keywords ι) (name : String) : Option String :=
  match Members.get? name keywords with
  | some (.value (.str s)) => some s
  | _ => none

def id? (keywords : Keywords ι) : Option String := string? keywords Vocabulary.id

def anchor? (keywords : Keywords ι) : Option String :=
  string? keywords Vocabulary.anchor

def dynamicAnchor? (keywords : Keywords ι) : Option String :=
  string? keywords Vocabulary.dynamicAnchor

def hasRecursiveAnchor (keywords : Keywords ι) : Bool :=
  match Members.get? Vocabulary.recursiveAnchor keywords with
  | some (.value (.bool true)) => true
  | _ => false

/-- Whether `$anchor` or `$dynamicAnchor` gives the object a name. -/
def hasAnchor (keywords : Keywords ι) (name : String) : Bool :=
  anchor? keywords == some name || dynamicAnchor? keywords == some name

/-- The kinds of reference that are present, in order of precedence. -/
def referenceKinds (keywords : Keywords ι) : List ReferenceKind :=
  ReferenceKind.all.filter fun kind => (string? keywords kind.keyword).isSome

/-- The reference the object follows: the first kind that is present. -/
def reference? (keywords : Keywords ι) : Option Reference :=
  ReferenceKind.all.findSome? fun kind =>
    (string? keywords kind.keyword).map fun target => ⟨kind, target⟩

/-- The keywords beside the references. -/
def siblings (keywords : Keywords ι) : Keywords ι :=
  keywords.filter fun (name, _) => !ReferenceKind.isKeyword name

end Keywords

namespace Schema

/-- The reference a schema follows. -/
def reference? (schema : Schema ι) : Option Reference :=
  schema.keywords? >>= Keywords.reference?

/-- The value of a keyword of an object. -/
def keyword? (schema : Schema ι) (name : String) : Option (Keyword ι) :=
  schema.keywords? >>= Members.get? name

end Schema

end SchemaDeref
