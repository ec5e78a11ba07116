import SchemaDeref.Json.Basic
import SchemaDeref.Settings

/-!
# Settings as JSON

An object with any of three keys, or the three values in order as an array, of which
the last ones may be missing.
-/

namespace SchemaDeref

/-- A policy by its name, or as an object whose only member has that name and
nothing in it. -/
def CyclePolicy.ofJson? : Json → Option CyclePolicy
  | .str name => CyclePolicy.ofName? name
  | .obj [(name, .null)] => CyclePolicy.ofName? name
  | _ => none

namespace Settings

/-- A number that fits sixty-four bits. -/
def depth? : Json → Option Nat
  | .num (.int value) =>
    if 0 ≤ value && value < Nat.pow 2 64 then some value.toNat else none
  | _ => none

/-! ## Reading -/

/-- Sets what a member of an object says. -/
def withMember (settings : Settings) : String × Json → Option Settings
  | ("maxDepth", value) => (depth? value).map fun maxDepth => { settings with
    maxDepth }
  | ("circularHandling", value) =>
    (CyclePolicy.ofJson? value).map fun cyclePolicy => { settings with cyclePolicy }
  | ("enableCache", value) => value.bool?.map fun useCache => { settings with
    useCache }
  | _ => none

/-- The keys in the order in which an array gives their values. -/
def keys : List String := ["maxDepth", "circularHandling", "enableCache"]

def ofJson? : Json → Option Settings
  | .obj members => members.foldlM withMember {}
  | .arr items =>
    if items.length ≤ keys.length then (keys.zip items).foldlM withMember {} else none
  | _ => none

/-! ## Writing -/

def toJson (settings : Settings) : Json :=
  .obj
    [("circularHandling", .str settings.cyclePolicy.name),
      ("enableCache", .bool settings.useCache),
      ("maxDepth", .num (.int settings.maxDepth))]

end Settings

end SchemaDeref
