import SchemaDeref.Error
import SchemaDeref.Json.Reader
import SchemaDeref.Schema.Basic

/-!
# Schemas as JSON

The shape of a keyword tells which values below it are schemas; all else is plain
data. Writing a schema as JSON forgets the marks, and reading gives none.
-/

namespace SchemaDeref

variable {ι : Type}

/-! ## To JSON -/

mutual

def Schema.toJson : Schema ι → Json
  | .bool value => .bool value
  | .object _ keywords => .obj (entriesToJson keywords)

def Keyword.toJson : Keyword ι → Json
  | .schema schema => schema.toJson
  | .list items => .arr (itemsToJson items)
  | .map entries => .obj (entriesToJson entries)
  | .value data => data

def itemsToJson : List (Keyword ι) → List Json
  | [] => []
  | item :: rest => item.toJson :: itemsToJson rest

def entriesToJson : List (String × Keyword ι) → List (String × Json)
  | [] => []
  | (name, keyword) :: rest => (name, keyword.toJson) :: entriesToJson rest

end

/-! ## From JSON -/

mutual

/-- Reads a value that stands where `form` tells what is a schema. -/
def Keyword.read (form : Form) : Json → Keyword Unit
  | .bool value => if form.schema then .schema (.bool value) else .value (.bool value)
  | .arr items => if form.list then .list (readItems items) else .value (.arr items)
  | .obj members =>
    if form.map then .map (readEntries members)
    else if form.schema then .schema (.object () (readKeywords members))
    else .value (.obj members)
  | data => .value data

/-- The items of a list. -/
def readItems : List Json → List (Keyword Unit)
  | [] => []
  | item :: rest => Keyword.read .nested item :: readItems rest

/-- The entries of a map. -/
def readEntries : List (String × Json) → List (String × Keyword Unit)
  | [] => []
  | (name, value) :: rest => (name, Keyword.read .nested value) :: readEntries rest

/-- The keywords of an object, each by the shape its name has. -/
def readKeywords : List (String × Json) → List (String × Keyword Unit)
  | [] => []
  | (name, value) :: rest =>
    (name, Keyword.read (Shape.ofKeyword name).form value) :: readKeywords rest

end

/-- The value of the keyword of a name. -/
def Keyword.ofJson (name : String) (value : Json) : Keyword Unit :=
  Keyword.read (Shape.ofKeyword name).form value

/-- Booleans and objects are schemas. -/
def Schema.ofJson? : Json → Option Document
  | .bool value => some (.bool value)
  | .obj members => some (.object () (readKeywords members))
  | _ => none

/-- As `ofJson?`, with the kind of the value in the error. -/
def Schema.ofJson (value : Json) : Except DerefError Document :=
  match Schema.ofJson? value with
  | some schema => .ok schema
  | none =>
    .error (.notASchema ("expected a boolean or an object, found " ++ value.kindName))

/-! ## From a text -/

/-- Why a text is no schema. -/
inductive TextFault where
  | json (fault : Json.Fault)
  /-- The text begins with a value that is no schema, whatever follows it. -/
  | notASchema (error : DerefError)
deriving DecidableEq, Repr

/-- The schema of a JSON text. -/
def Schema.parse (text : String) : Except TextFault Document := do
  let (value, rest) ← (Json.readValue Json.documentNesting text.toList).mapError .json
  let schema ← (Schema.ofJson value).mapError .notASchema
  (Json.checkEnd rest).mapError .json
  return schema

end SchemaDeref
