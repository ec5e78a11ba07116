import SchemaDeref.Pointer.Follow
import SchemaDeref.Pointer.Parts
import SchemaDeref.Schema.Node
import SchemaDeref.Schema.Subschemas

/-!
# Places by name

`Node.anchored?` finds the first node of a document, in the order it is written,
that an anchor gives a name. It keeps the nodes still to be looked at on a list and
looks at no node twice.
-/

namespace SchemaDeref

/-! ## Anchors -/

/-- Searches the listed nodes and what they hold, in order, for an anchor of a name. -/
def searchAnchor (name : String) (visited : List NodeId)
    (pending : List Node) : Option Node :=
  match pending with
  | [] => none
  | .bool _ :: rest => searchAnchor name visited rest
  | .object id keywords :: rest =>
    if id ∈ visited then searchAnchor name visited rest
    else if Keywords.hasAnchor keywords name then some (.object id keywords)
    else
      searchAnchor name (id :: visited)
        ((Keywords.subschemas keywords).map Subschema.schema ++ rest)
termination_by countAll pending
decreasing_by
  · simp [countAll, Schema.count]
  · simp only [countAll, Schema.count]
    omega
  · have h := Keywords.countSubschemas_le keywords
    simp only [countSubschemas] at h
    simp only [countAll_append, countAll, Schema.count]
    omega

/-- The first node of a document that has an anchor of a name. -/
def Node.anchored? (document : Node) (name : String) : Option Node :=
  searchAnchor name [] [document]

/-! ## Fragments -/

/-- The place in a document that the fragment of a reference names: the whole
document, a pointer, or an anchor; where no anchor has the name, it is a pointer
without its first slash. -/
def Node.locate (document : Node) (fragment : Option String) :
    Except DerefError (Landing NodeId) :=
  match fragment with
  | none => .ok (.found document)
  | some fragment =>
    match fragment.toList with
    | [] => .ok (.found document)
    | '/' :: _ => document.follow fragment
    | _ =>
      match document.anchored? fragment with
      | some node => .ok (.found node)
      | none => document.follow fragment

end SchemaDeref
