import SchemaDeref.Files.Basic
import SchemaDeref.Text.Shown

/-!
# Settings that cannot be read
-/

namespace SchemaDeref

/-- Why there are no settings. -/
inductive SettingsError where
  /-- A value that means nothing for its key. -/
  | invalidValue (key value reason : String)
  | unreadable (path : String) (fault : FileFault)
  | malformed (path : String)
deriving DecidableEq, Repr

namespace SettingsError

def message : SettingsError → String
  | .invalidValue key value reason =>
    "invalid value " ++ Text.quoted value ++ " for " ++ key ++ ": " ++ reason
  | .unreadable path fault => "cannot read options file " ++ path ++ ": " ++
    fault.message
  | .malformed path =>
    "cannot parse options file " ++ path ++ ": the text is no YAML of settings"

/-- The message of the error itself, then of what caused it. -/
def causes : SettingsError → List String
  | .unreadable path fault => [message (.unreadable path fault), fault.message]
  | error => [error.message]

end SettingsError

end SchemaDeref
