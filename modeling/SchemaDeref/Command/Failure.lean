import SchemaDeref.Files.Document
import SchemaDeref.Settings.Environment
import SchemaDeref.Settings.Yaml

/-!
# Failures of commands

A failure tells what was attempted, then why it failed, from the outermost cause to
the innermost.
-/

namespace SchemaDeref

/-- The texts of a failure, outermost first. -/
abbrev Failure := List String

namespace Failure

def message (failure : Failure) : String := ": ".intercalate failure

def ofLoad (attempt : String) (error : LoadError) : Failure := attempt :: error.causes

def ofSettings (attempt : String) (error : SettingsError) : Failure :=
  attempt :: error.causes

def ofDeref (attempt : String) (error : DerefError) : Failure :=
  [attempt, error.message]

def ofFile (attempt : String) (fault : FileFault) : Failure :=
  [attempt, fault.message]

end Failure

/-! ## Inputs of all commands -/

/-- The environment of a program. -/
abbrev Environment := String → Option String

/-- The settings in a file, or else in the environment. -/
def Settings.load (files : Files) (environment : Environment)
    (config : Option String) :
    Except Failure Settings :=
  match config with
  | some path =>
    (Settings.ofFile files path).mapError
      (.ofSettings ("failed to load config " ++ path))
  | none =>
    (Settings.ofEnvironment environment).mapError
      (.ofSettings "invalid SCHEMAREF_* environment")

/-- The schema a command works on. -/
def Document.load (files : Files) (path : String) : Except Failure Document :=
  (Document.ofFile files path).mapError (.ofLoad ("failed to read schema " ++ path))

end SchemaDeref
