import SchemaDeref.Text.Shown

/-!
# What can go wrong

Each cause of failure carries what its message names. `DerefError.kind` forgets that
and leaves the class of the failure.
-/

namespace SchemaDeref

/-- Why a schema cannot be read, followed into or dereferenced. -/
inductive DerefError where
  /-- A reference came up again while it was being expanded. -/
  | circular (reference : String)
  /-- As many references as allowed are being expanded already. -/
  | tooDeep (maxDepth : Nat) (reference : String)
  /-- A pointer steps into something without members, or ends at something that is
  no schema. -/
  | invalidPointer (pointer reason : String)
  /-- A pointer names a member or an item that does not exist. -/
  | missingMember (pointer token : String)
  /-- No document is known for a reference. -/
  | unresolved (reference : String)
  /-- No anchor of that name is in reach of a dynamic reference. -/
  | unresolvedDynamic (reference : String)
  /-- The source of documents failed. -/
  | loader (uri message : String)
  /-- A value is neither a boolean nor an object. -/
  | notASchema (reason : String)
deriving DecidableEq, Repr

namespace DerefError

/-! ## Classes -/

inductive Kind where
  | circularReference
  | maxDepthExceeded
  | invalidPointer
  | pointerNotFound
  | cannotResolveReference
  | cannotResolveDynamicReference
  | loaderFailure
  | invalidSchema
deriving DecidableEq, Repr

def Kind.name : Kind → String
  | .circularReference => "CircularReferenceDetected"
  | .maxDepthExceeded => "MaxDepthExceeded"
  | .invalidPointer => "InvalidPointer"
  | .pointerNotFound => "PointerNotFound"
  | .cannotResolveReference => "CannotResolveReference"
  | .cannotResolveDynamicReference => "CannotResolveDynamicReference"
  | .loaderFailure => "LoaderFailure"
  | .invalidSchema => "InvalidSchema"

def kind : DerefError → Kind
  | .circular _ => .circularReference
  | .tooDeep _ _ => .maxDepthExceeded
  | .invalidPointer _ _ => .invalidPointer
  | .missingMember _ _ => .pointerNotFound
  | .unresolved _ => .cannotResolveReference
  | .unresolvedDynamic _ => .cannotResolveDynamicReference
  | .loader _ _ => .loaderFailure
  | .notASchema _ => .invalidSchema

/-! ## Wording -/

def message : DerefError → String
  | .circular reference => "Circular reference detected: " ++ reference
  | .tooDeep maxDepth reference =>
    "Maximum reference depth of " ++ toString maxDepth ++
      " exceeded while resolving " ++ reference
  | .invalidPointer pointer reason =>
    "Invalid JSON pointer " ++ pointer ++ ": " ++ reason
  | .missingMember pointer token =>
    "JSON pointer " ++ pointer ++ " not found: no member " ++ Text.quoted token
  | .unresolved reference => "Cannot resolve reference " ++ reference
  | .unresolvedDynamic reference => "Cannot resolve dynamic reference " ++ reference
  | .loader uri text => "Failed to load external schema " ++ uri ++ ": " ++ text
  | .notASchema reason => "Invalid schema: " ++ reason

end DerefError

end SchemaDeref
