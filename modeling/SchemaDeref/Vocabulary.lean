/-!
# The keyword vocabulary

The keywords the library knows by name: those that identify or refer to a schema,
and those whose values hold subschemas. The shape of a keyword says which of its
values are read as schemas and whether dereferencing goes into them.
-/

namespace SchemaDeref

/-! ## Identifying keywords -/

namespace Vocabulary

def id : String := "$id"

def anchor : String := "$anchor"

def recursiveAnchor : String := "$recursiveAnchor"

def dynamicAnchor : String := "$dynamicAnchor"

/-! ## Keywords with subschemas -/

/-- Keywords whose value is one subschema. -/
def single : List String :=
  ["additionalProperties", "additionalItems", "unevaluatedProperties",
    "unevaluatedItems", "propertyNames", "contains", "contentSchema", "not", "if",
    "then", "else"]

/-- Keywords whose value is an array of subschemas. -/
def list : List String := ["allOf", "anyOf", "oneOf", "prefixItems"]

/-- The keyword whose value is one subschema or an array of them. -/
def items : String := "items"

/-- Keywords whose value maps names to subschemas. -/
def map : List String :=
  ["properties", "patternProperties", "dependentSchemas", "dependencies"]

/-- Keywords that keep named schemas for others to refer to. -/
def container : List String := ["definitions", "$defs"]

end Vocabulary

/-! ## Shapes -/

/-- How the value of a keyword is built. -/
inductive Shape where
  | single
  | list
  | items
  | map
  | container
  | value
deriving DecidableEq, Repr

namespace Shape

/-- The shape of a keyword by its name. A name the vocabulary does not have holds
plain data. -/
def ofKeyword (name : String) : Shape :=
  if name = Vocabulary.items then .items
  else if name ∈ Vocabulary.single then .single
  else if name ∈ Vocabulary.list then .list
  else if name ∈ Vocabulary.map then .map
  else if name ∈ Vocabulary.container then .container
  else .value

/-- Whether dereferencing goes into the values of the keyword. Containers are left
as they are. -/
def isApplicator : Shape → Bool
  | .single | .list | .items | .map => true
  | .container | .value => false

end Shape

/-- Which JSON values are read as something other than data. -/
structure Form where
  /-- A boolean or an object is a schema. -/
  schema : Bool
  /-- An array is a list of values. -/
  list : Bool
  /-- An object is a map of values, and no schema. -/
  map : Bool
deriving DecidableEq, Repr

/-- What stands inside a list or a map: schemas and lists of them, at any depth. -/
def Form.nested : Form := ⟨true, true, false⟩

/-- What stands directly under a keyword of a shape. -/
def Shape.form : Shape → Form
  | .single => ⟨true, false, false⟩
  | .list => ⟨false, true, false⟩
  | .items => ⟨true, true, false⟩
  | .map | .container => ⟨false, false, true⟩
  | .value => ⟨false, false, false⟩

/-! ## References -/

/-- The ways a schema refers to another. -/
inductive ReferenceKind where
  | dynamic
  | recursive
  | static
deriving DecidableEq, Repr

namespace ReferenceKind

/-- The kinds in order of precedence: a schema follows the first it has. -/
def all : List ReferenceKind := [.dynamic, .recursive, .static]

def keyword : ReferenceKind → String
  | .dynamic => "$dynamicRef"
  | .recursive => "$recursiveRef"
  | .static => "$ref"

/-- Whether a keyword is a reference of some kind. -/
def isKeyword (name : String) : Bool := all.any fun kind => kind.keyword == name

end ReferenceKind

end SchemaDeref
