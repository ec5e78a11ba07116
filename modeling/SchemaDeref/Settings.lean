/-!
# Settings

What a caller may choose: how many references may be expanded inside one another,
what happens to a reference that comes up inside its own expansion, and whether
results are remembered.
-/

namespace SchemaDeref

/-- What becomes of a reference that comes up while it is being expanded. -/
inductive CyclePolicy where
  /-- The whole call fails. -/
  | error
  /-- The reference stays as it is written. -/
  | ignore
  /-- As `ignore`; whoever uses the result is meant to expand the reference when
  needed. -/
  | lazy
deriving DecidableEq, Repr, Inhabited

namespace CyclePolicy

/-- Whether circular references stay in the result. -/
def keepsEdges : CyclePolicy → Bool
  | .error => false
  | .ignore | .lazy => true

def name : CyclePolicy → String
  | .error => "error"
  | .ignore => "ignore"
  | .lazy => "lazy"

/-- The policy of a name, in lower case. -/
def ofName? : String → Option CyclePolicy
  | "error" => some .error
  | "ignore" => some .ignore
  | "lazy" => some .lazy
  | _ => none

end CyclePolicy

structure Settings where
  maxDepth : Nat := 10
  cyclePolicy : CyclePolicy := .error
  useCache : Bool := true
deriving DecidableEq, Repr, Inhabited

end SchemaDeref
