import SchemaDeref.Yaml.Plain
import SchemaDeref.Yaml.Value

/-!
# YAML as JSON

The JSON value a YAML value stands for. Keys are the texts of scalars, whatever they
look like; of two equal keys the later wins. Tags of the author's own have no
meaning in JSON.
-/

namespace SchemaDeref.Yaml

/-- A scalar without a tag: only in its plain form it is more than its text. -/
def untaggedScalar (text : String) (style : Style) : Option Json :=
  if style = .plain then plainValue text else some (.str text)

/-- A scalar with a tag of the core schema is what the tag says, or a fault. -/
def scalarJson? (tag : Option Tag) (text : String) (style : Style) : Option Json :=
  match tag with
  | some .null => if isNull text then some .null else none
  | some .bool => (bool? text).map .bool
  | some .int => (wholeNumber? text.toList).getD none
  | some .float => fraction? text.toList
  | some (.own _) => none
  | some .other => some (.str text)
  | some .garbled | none => untaggedScalar text style

/-- Collections with tags of the author's own are no JSON. -/
def isForeign : Option Tag → Bool
  | some (.own _) => true
  | _ => false

def keyText? : Yaml → Option String
  | .scalar _ text _ => some text
  | _ => none

mutual

def json? : Yaml → Option Json
  | .scalar tag text style => scalarJson? tag text style
  | .sequence tag items => do
    if isForeign tag then none
    else return .arr (← jsonItems? items)
  | .mapping tag entries => do
    if isForeign tag then none
    else return .obj (Members.ofList (← jsonEntries? entries))

def jsonItems? : List Yaml → Option (List Json)
  | [] => some []
  | item :: rest => do return (← json? item) :: (← jsonItems? rest)

def jsonEntries? : List (Yaml × Yaml) → Option (List (String × Json))
  | [] => some []
  | (key, value) :: rest => do
    let entry := (← keyText? key, ← json? value)
    return entry :: (← jsonEntries? rest)

end

end SchemaDeref.Yaml
