import SchemaDeref.Schema.Keywords
import SchemaDeref.Uri.Grammar

/-!
# The catalog of documents

Documents by the names of their resources. What is registered under a name first
stays there. Registering a document also registers every schema inside it that has
an identifier of its own, joined with the identifiers around it.
-/

namespace SchemaDeref

variable {ι : Type}

/-- Documents by name, in ascending order of the names. -/
structure Catalog (ι : Type) where
  entries : Members (Schema ι)

namespace Catalog

def empty : Catalog ι := ⟨[]⟩

instance : Inhabited (Catalog ι) := ⟨empty⟩

/-! ## Looking up -/

/-- The document under a URI, whose empty fragment does not count. -/
def get? (catalog : Catalog ι) (uri : String) : Option (Schema ι) :=
  catalog.entries.get? (Uri.resourceName uri)

def contains (catalog : Catalog ι) (uri : String) : Bool := (catalog.get? uri).isSome

def size (catalog : Catalog ι) : Nat := catalog.entries.length

/-- The names that are taken, in ascending order. -/
def uris (catalog : Catalog ι) : List String := Members.names catalog.entries

/-! ## Adding -/

/-- Adds a document under a URI unless the name is taken. -/
def add (catalog : Catalog ι) (uri : String) (schema : Schema ι) : Catalog ι :=
  if catalog.contains uri then catalog
  else ⟨catalog.entries.insert (Uri.resourceName uri) schema⟩

end Catalog

/-- The base that holds inside an object: its own identifier joined with the base
around it. -/
def Keywords.baseWithin (base : Option String)
    (keywords : Keywords ι) : Option String :=
  match Keywords.id? keywords with
  | some id => some (Uri.joinName base id)
  | none => base

mutual

/-- Adds the schemas with identifiers in a schema that stands under the base
`parent`. -/
def Schema.enroll (parent : String) : Schema ι → Catalog ι → Catalog ι
  | .bool _, catalog => catalog
  | .object mark keywords, catalog =>
    match Keywords.id? keywords with
    | some id =>
      let name := Uri.joinName (some parent) id
      enrollKeywords name keywords (catalog.add name (.object mark keywords))
    | none => enrollKeywords parent keywords catalog

/-- Goes into the keywords that hold subschemas. -/
def enrollKeywords (parent : String) :
    List (String × Keyword ι) → Catalog ι → Catalog ι
  | [], catalog => catalog
  | (name, keyword) :: rest, catalog =>
    enrollKeywords parent rest
      (if Shape.ofKeyword name = .value then catalog
        else keyword.enroll parent catalog)

def Keyword.enroll (parent : String) : Keyword ι → Catalog ι → Catalog ι
  | .schema s, catalog => s.enroll parent catalog
  | .list items, catalog => enrollItems parent items catalog
  | .map entries, catalog => enrollEntries parent entries catalog
  | .value _, catalog => catalog

def enrollItems (parent : String) : List (Keyword ι) → Catalog ι → Catalog ι
  | [], catalog => catalog
  | item :: rest, catalog => enrollItems parent rest (item.enroll parent catalog)

def enrollEntries (parent : String) :
    List (String × Keyword ι) → Catalog ι → Catalog ι
  | [], catalog => catalog
  | (_, entry) :: rest, catalog =>
    enrollEntries parent rest (entry.enroll parent catalog)

end

namespace Catalog

/-- The name a document is registered under: the URI given for it, or else its
identifier. -/
def nameFor? (schema : Schema ι) (uri : Option String) : Option String :=
  (uri <|> (schema.keywords? >>= Keywords.id?)).map (Uri.joinName none)

/-- Registers a document and the schemas inside it that have identifiers. Without a
name nothing is registered. -/
def register (catalog : Catalog ι) (schema : Schema ι)
    (uri : Option String) : Catalog ι :=
  match nameFor? schema uri with
  | none => catalog
  | some name =>
    enrollKeywords name (schema.keywords?.getD []) (catalog.add name schema)

end Catalog

end SchemaDeref
