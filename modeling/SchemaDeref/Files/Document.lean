import SchemaDeref.Files.Basic
import SchemaDeref.Files.Path
import SchemaDeref.Json.Reader
import SchemaDeref.Schema.Text
import SchemaDeref.Yaml.Json

/-!
# Documents in files

A file holds a schema as YAML if its name says so, and as JSON otherwise.
-/

namespace SchemaDeref

/-- Why a file gives no schema. -/
inductive LoadError where
  | unreadable (path : String) (fault : FileFault)
  | malformed (path : String) (reason : String)
  | notASchema (path : String) (error : DerefError)
deriving DecidableEq, Repr

namespace LoadError

def message : LoadError → String
  | .unreadable path fault => "cannot read " ++ path ++ ": " ++ fault.message
  | .malformed path reason => "cannot parse " ++ path ++ ": " ++ reason
  | .notASchema path error => path ++ " is not a schema: " ++ error.message

/-- The message of the error itself, then of what caused it. -/
def causes : LoadError → List String
  | .unreadable path fault => [message (.unreadable path fault), fault.message]
  | .malformed path reason => [message (.malformed path reason)]
  | .notASchema path error => [message (.notASchema path error), error.message]

end LoadError

namespace Document

/-- Whether the name of a file says that it holds YAML. -/
def isYamlPath (path : String) : Bool :=
  Path.extension? path ∈ [some "yaml", some "yml"]

def faultReason : Json.Fault → String
  | .unfinished => "the text ends inside of a value"
  | .malformed => "the text is no JSON"

/-- The JSON value of the text of a file, or why there is none. -/
def readValue (path text : String) : Except String Json :=
  if isYamlPath path then
    match Yaml.parse? text >>= Yaml.json? with
    | some value => .ok value
    | none => .error "the text is no YAML of a single JSON value"
  else (Json.parse Json.documentNesting text).mapError faultReason

/-- The schema of the text of a file. -/
def parse (path text : String) : Except LoadError Document := do
  let value ← (readValue path text).mapError (.malformed path)
  (Schema.ofJson value).mapError (.notASchema path)

/-- The schema in a file. -/
def ofFile (files : Files) (path : String) : Except LoadError Document := do
  let text ← (files.text path).mapError (.unreadable path)
  parse path text

end Document

end SchemaDeref
