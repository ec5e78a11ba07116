import SchemaDeref.Settings
import SchemaDeref.Settings.Error
import SchemaDeref.Text.Basic

/-!
# Settings from words

The words a person writes for settings, as flags or in the environment. Blanks
around a word and the case of its letters do not count; an environment variable that
is not set leaves the default.
-/

namespace SchemaDeref

/-! ## Numbers -/

/-- Why a text is no number of sixty-four bits. -/
inductive NaturalFault where
  | empty
  | invalidDigit
  | tooLarge
deriving DecidableEq, Repr

def NaturalFault.message : NaturalFault → String
  | .empty => "cannot parse integer from empty string"
  | .invalidDigit => "invalid digit found in string"
  | .tooLarge => "number too large to fit in target type"

namespace Text

/-- Reads digits behind the number that those before them make up. -/
def digits (value : Nat) : List Char → Except NaturalFault Nat
  | [] => .ok value
  | c :: rest =>
    if !c.isDigit then .error .invalidDigit
    else
      let next := value * 10 + (c.toNat - 48)
      if next < Nat.pow 2 64 then digits next rest else .error .tooLarge

/-- A number of sixty-four bits, with a plus sign or without. The first fault from
the left counts. -/
def natural (text : String) : Except NaturalFault Nat :=
  match text.toList with
  | [] => .error .empty
  | ['+'] => .error .invalidDigit
  | '+' :: rest => digits 0 rest
  | rest => digits 0 rest

/-- A word as it is compared: without the blanks around it, in lower case. -/
def word (text : String) : String := lower (trim text)

end Text

/-! ## Policies and switches -/

/-- The key of the cycle policy where settings have keys. -/
def cyclePolicyKey : String := "circularHandling"

/-- The policy a person names; `key` is what the setting is called there. -/
def CyclePolicy.parse (key text : String) : Except SettingsError CyclePolicy :=
  match CyclePolicy.ofName? (Text.word text) with
  | some policy => .ok policy
  | none =>
    .error (.invalidValue key (Text.word text) "expected one of: error, ignore, lazy")

def switch? (text : String) : Option Bool :=
  let word := Text.word text
  if word ∈ ["true", "1", "yes", "on"] then some true
  else if word ∈ ["false", "0", "no", "off"] then some false
  else none

/-! ## The environment -/

namespace Settings

def maxDepthVariable : String := "SCHEMAREF_MAX_DEPTH"
def cyclePolicyVariable : String := "SCHEMAREF_CIRCULAR_HANDLING"
def useCacheVariable : String := "SCHEMAREF_ENABLE_CACHE"

/-- The variables that hold settings. -/
def variableNames : List String :=
  [maxDepthVariable, cyclePolicyVariable, useCacheVariable]

def maxDepthOf (text : String) : Except SettingsError Nat :=
  (Text.natural (Text.trim text)).mapError fun fault =>
    .invalidValue maxDepthVariable text fault.message

def useCacheOf (text : String) : Except SettingsError Bool :=
  match switch? text with
  | some value => .ok value
  | none =>
    .error (.invalidValue useCacheVariable text "expected true/false, 1/0 or yes/no")

/-- Reads a variable if it is set. -/
def orDefault {α : Type} (value : Option String)
    (read : String → Except SettingsError α) (default : α) : Except SettingsError α :=
  match value with
  | some text => read text
  | none => .ok default

/-- The settings of an environment. The first bad variable is the error. -/
def ofEnvironment (lookup : String → Option String) :
    Except SettingsError Settings := do
  let settings : Settings := {}
  let maxDepth ← orDefault (lookup maxDepthVariable) maxDepthOf settings.maxDepth
  let cyclePolicy ← orDefault (lookup cyclePolicyVariable)
    (CyclePolicy.parse cyclePolicyVariable) settings.cyclePolicy
  let useCache ← orDefault (lookup useCacheVariable) useCacheOf settings.useCache
  return { maxDepth, cyclePolicy, useCache }

end Settings

end SchemaDeref
