import SchemaDeref.Json.Basic
import SchemaDeref.Vocabulary

/-!
# Schemas

A schema is a boolean or an object of keywords, and the value of a keyword is a
schema, a list, a map, or plain data. Every object carries a mark: `Document` has
none to speak of, `Node` has the identity that dereferencing remembers results by.
Equality of schemas (`Schema.same`) never looks at marks.
-/

namespace SchemaDeref

mutual

inductive Schema (ι : Type) where
  | bool (value : Bool)
  | object (mark : ι) (keywords : List (String × Keyword ι))

inductive Keyword (ι : Type) where
  | schema (schema : Schema ι)
  | list (items : List (Keyword ι))
  | map (entries : List (String × Keyword ι))
  | value (data : Json)

end

/-- The keywords of an object, in ascending order of their names. -/
abbrev Keywords (ι : Type) := Members (Keyword ι)

/-- A schema as it is written, without identities. -/
abbrev Document := Schema Unit

instance {ι : Type} : Inhabited (Schema ι) := ⟨.bool true⟩

instance {ι : Type} : Inhabited (Keyword ι) := ⟨.value .null⟩

variable {ι κ : Type}

/-! ## Equality -/

mutual

/-- Whether two schemas are built alike, whatever their marks. -/
def Schema.same : Schema ι → Schema κ → Bool
  | .bool a, .bool b => a == b
  | .object _ as, .object _ bs => sameEntries as bs
  | _, _ => false

def Keyword.same : Keyword ι → Keyword κ → Bool
  | .schema a, .schema b => a.same b
  | .list as, .list bs => sameItems as bs
  | .map as, .map bs => sameEntries as bs
  | .value a, .value b => a.same b
  | _, _ => false

def sameItems : List (Keyword ι) → List (Keyword κ) → Bool
  | [], [] => true
  | a :: as, b :: bs => a.same b && sameItems as bs
  | _, _ => false

def sameEntries : List (String × Keyword ι) → List (String × Keyword κ) → Bool
  | [], [] => true
  | (m, a) :: as, (n, b) :: bs => m == n && a.same b && sameEntries as bs
  | _, _ => false

end

/-! ## Marks -/

namespace Schema

/-- The mark of an object; booleans have none. -/
def mark? : Schema ι → Option ι
  | .bool _ => none
  | .object mark _ => some mark

/-- The keywords of an object; a boolean has none. -/
def keywords? : Schema ι → Option (Keywords ι)
  | .bool _ => none
  | .object _ keywords => some keywords

/-- Whether two schemas are one: equal booleans, or objects with one mark. -/
def isSameNode [DecidableEq ι] : Schema ι → Schema ι → Bool
  | .bool a, .bool b => a == b
  | .object m _, .object n _ => m == n
  | _, _ => false

end Schema

mutual

/-- Forgets the marks. -/
def Schema.erase : Schema ι → Document
  | .bool value => .bool value
  | .object _ keywords => .object () (eraseEntries keywords)

def Keyword.erase : Keyword ι → Keyword Unit
  | .schema schema => .schema schema.erase
  | .list items => .list (eraseItems items)
  | .map entries => .map (eraseEntries entries)
  | .value data => .value data

def eraseItems : List (Keyword ι) → List (Keyword Unit)
  | [] => []
  | item :: rest => item.erase :: eraseItems rest

def eraseEntries : List (String × Keyword ι) → List (String × Keyword Unit)
  | [] => []
  | (name, keyword) :: rest => (name, keyword.erase) :: eraseEntries rest

end

end SchemaDeref
