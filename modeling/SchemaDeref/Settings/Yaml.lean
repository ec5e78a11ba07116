import SchemaDeref.Settings
import SchemaDeref.Settings.Error
import SchemaDeref.Yaml.Plain
import SchemaDeref.Yaml.Value

/-!
# Settings as YAML

A mapping as in JSON. No key may occur twice, and a document that is left empty
stands for the defaults.
-/

namespace SchemaDeref

/-- A policy by its name, or by a tag of that name before nothing. -/
def CyclePolicy.ofYaml? : Yaml → Option CyclePolicy
  | .scalar (some (.own name)) text style =>
    if style = .plain && (text.isEmpty || Yaml.isNull text) then
      CyclePolicy.ofName? name
    else none
  | .scalar _ text _ => CyclePolicy.ofName? text
  | _ => none

namespace Settings

/-- The text of a scalar that is read as a value of a kind: plain, or literal with
the tag of that kind. -/
def valueText? (tag : Yaml.Tag) : Yaml → Option String
  | .scalar _ text .plain => some text
  | .scalar (some t) text .literal => if t = tag then some text else none
  | _ => none

/-- A whole number of sixty-four bits without minus sign. -/
def depthOfYaml? (value : Yaml) : Option Nat := do
  let text ← valueText? .int value
  if text.toList.head? == some '-' then none
  else
    let number ← Yaml.integer? text.toList
    if number < Nat.pow 2 64 then some number.toNat else none

def switchOfYaml? (value : Yaml) : Option Bool :=
  valueText? .bool value >>= Yaml.bool?

def scalarText? : Yaml → Option String
  | .scalar _ text _ => some text
  | _ => none

/-! ## Reading -/

/-- Sets what an entry of a mapping says. -/
def withEntry (settings : Settings) : String × Yaml → Option Settings
  | ("maxDepth", value) => (depthOfYaml? value).map fun maxDepth => { settings with
    maxDepth }
  | ("circularHandling", value) =>
    (CyclePolicy.ofYaml? value).map fun cyclePolicy => { settings with cyclePolicy }
  | ("enableCache", value) =>
    (switchOfYaml? value).map fun useCache => { settings with useCache }
  | _ => none

/-- The entries of a mapping by the texts of their keys; none if a key occurs twice. -/
def distinctEntries? (entries : List (Yaml × Yaml)) :
    Option (List (String × Yaml)) := do
  let entries ← entries.mapM fun (key, value) => (scalarText? key).map
      fun name => (name, value)
  let names := entries.map Prod.fst
  if names.eraseDups.length = names.length then some entries else none

/-- The settings a value stands for. -/
def ofYamlValue? : Yaml → Option Settings
  | .mapping _ entries => do (← distinctEntries? entries).foldlM withEntry {}
  | .sequence _ _ => none
  | .scalar _ text style => if text.isEmpty && style = .plain then some {} else none

/-- The settings of a text. -/
def ofYaml? (text : String) : Option Settings := Yaml.parse? text >>= ofYamlValue?

/-! ## Files -/

/-- How a text that is in no file is called. -/
def inlinePath : String := "<inline>"

/-- The settings of the text of a file. -/
def ofYaml (path text : String) : Except SettingsError Settings :=
  match ofYaml? text with
  | some settings => .ok settings
  | none => .error (.malformed path)

def ofFile (files : Files) (path : String) : Except SettingsError Settings := do
  let text ← (files.text path).mapError (.unreadable path)
  ofYaml path text

end Settings

end SchemaDeref
