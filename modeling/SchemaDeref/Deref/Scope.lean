import SchemaDeref.Catalog
import SchemaDeref.Schema.Node

/-!
# Scope

What a node sees of the way that leads to it: the document and the base its
references are read in, the references being expanded, and the anchors of the nodes
around it. A scope is a value; entering a node or following a reference gives a
larger one and leaves the old one as it is.
-/

namespace SchemaDeref

structure Scope where
  /-- The document in which local references are looked up. -/
  root : Node
  base : Option String
  /-- The number of references followed. -/
  depth : Nat
  /-- The keys of the references being expanded, last first. -/
  path : List String
  /-- The nodes with a recursive anchor around this place, innermost first. -/
  anchors : List Node
  /-- The dynamic anchors around this place, innermost first. -/
  bindings : List (String × Node)

namespace Scope

/-- The scope at the root of a document. -/
def start (root : Node) (base : Option String) : Scope := ⟨root, base, 0, [], [], []⟩

/-! ## What a scope shows -/

def onPath (scope : Scope) (key : String) : Bool := scope.path.contains key

/-- The innermost node with a recursive anchor. -/
def recursiveAnchor? (scope : Scope) : Option Node := scope.anchors.head?

/-- The innermost node with a dynamic anchor of a name. -/
def binding? (scope : Scope) (name : String) : Option Node :=
  scope.bindings.lookup name

/-! ## Larger scopes -/

def withBase (scope : Scope) (base : String) : Scope :=
  { scope with base := some base }

def withAnchor (scope : Scope) (node : Node) : Scope :=
  { scope with anchors := node :: scope.anchors }

def withBinding (scope : Scope) (name : String) (node : Node) : Scope :=
  { scope with bindings := (name, node) :: scope.bindings }

/-- The scope behind a reference: one step deeper, in the document and base of its
target. -/
def descend (scope : Scope) (key : String) (root : Node)
    (base : Option String) : Scope :=
  { scope with root, base, depth := scope.depth + 1, path := key :: scope.path }

/-- The scope inside an object: what its identifier and its anchors add. -/
def enter (scope : Scope) (id : NodeId) (keywords : Keywords NodeId) : Scope :=
  let node : Node := .object id keywords
  let scope := { scope with base := Keywords.baseWithin scope.base keywords }
  let scope := if Keywords.hasRecursiveAnchor keywords then scope.withAnchor node
  else scope
  match Keywords.dynamicAnchor? keywords with
  | some name => scope.withBinding name node
  | none => scope

end Scope

/-- The key a reference is known by while it is being expanded. -/
def Reference.key (reference : Reference) (base : Option String) : String :=
  reference.kind.keyword ++ "|" ++ base.getD "" ++ "|" ++ reference.target

end SchemaDeref
