import SchemaDeref.Schema.Node

/-!
# Memo

What one call remembers: the results of references and of nodes, the circular
references it kept, and counts of its work. With the cache switched off nothing is
remembered and no hit is counted.
-/

namespace SchemaDeref

/-- Counts of the work of one call. -/
structure Stats where
  /-- Targets of references that were dereferenced. -/
  expansions : Nat
  referenceHits : Nat
  nodeHits : Nat
deriving DecidableEq, Repr

structure Memo where
  enabled : Bool
  /-- Results by base and reference, latest first. -/
  references : List ((String × String) × Node)
  /-- Results by the identity of the node, latest first. -/
  nodes : List (NodeId × Node)
  /-- The keys of the circular references that were kept, in ascending order. -/
  edges : List String
  stats : Stats

namespace Memo

def empty (enabled : Bool) : Memo := ⟨enabled, [], [], [], ⟨0, 0, 0⟩⟩

/-! ## References -/

def recallReference (memo : Memo) (base : Option String) (target : String) :
    Option Node × Memo :=
  if memo.enabled then
    match memo.references.lookup (base.getD "", target) with
    | some result =>
      (some result,
        { memo with
          stats := { memo.stats with
            referenceHits := memo.stats.referenceHits + 1 } })
    | none => (none, memo)
  else (none, memo)

def rememberReference (memo : Memo) (base : Option String) (target : String)
    (result : Node) :
    Memo :=
  if memo.enabled then
    { memo with references := ((base.getD "", target), result) :: memo.references }
  else memo

/-! ## Nodes -/

/-- The result of a node; booleans have no identity and are not remembered. -/
def recallNode (memo : Memo) (node : Node) : Option Node × Memo :=
  if memo.enabled then
    match node.mark? >>= fun id => memo.nodes.lookup id with
    | some result =>
      (some result, { memo with
        stats := { memo.stats with nodeHits := memo.stats.nodeHits + 1 } })
    | none => (none, memo)
  else (none, memo)

def rememberNode (memo : Memo) (node result : Node) : Memo :=
  if memo.enabled then
    match node.mark? with
    | some id => { memo with nodes := (id, result) :: memo.nodes }
    | none => memo
  else memo

/-! ## Records -/

/-- Adds a key to keys in ascending order, unless it is there. -/
def insertKey (key : String) : List String → List String
  | [] => [key]
  | k :: rest =>
    if key < k then key :: k :: rest else if k = key then k :: rest
    else k :: insertKey key rest

def recordEdge (memo : Memo) (key : String) : Memo :=
  { memo with edges := insertKey key memo.edges }

def recordExpansion (memo : Memo) : Memo :=
  { memo with stats := { memo.stats with expansions := memo.stats.expansions + 1 } }

end Memo

end SchemaDeref
