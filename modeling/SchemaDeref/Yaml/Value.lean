import SchemaDeref.Yaml.Node

/-!
# Values of a YAML document

A tree without aliases: each alias is replaced by the last node, in reading order,
that carries its number. A value may use aliases and nest collections only so far,
so an alias inside its own anchor is malformed.
-/

namespace SchemaDeref

/-- A tree of scalars, sequences and mappings. -/
inductive Yaml where
  | scalar (tag : Option Yaml.Tag) (text : String) (style : Yaml.Style)
  | sequence (tag : Option Yaml.Tag) (items : List Yaml)
  | mapping (tag : Option Yaml.Tag) (entries : List (Yaml × Yaml))
deriving Repr, Inhabited

namespace Yaml

namespace Node

/-! ## Reading order -/

mutual

/-- The nodes of a tree in reading order. -/
def nodes : Node → List Node
  | .scalar properties text style => [.scalar properties text style]
  | .sequence properties items => .sequence properties items :: nodesOfItems items
  | .mapping properties entries =>
    .mapping properties entries :: nodesOfEntries entries
  | .alias anchor => [.alias anchor]

def nodesOfItems : List Node → List Node
  | [] => []
  | item :: rest => nodes item ++ nodesOfItems rest

def nodesOfEntries : List (Node × Node) → List Node
  | [] => []
  | (key, value) :: rest => nodes key ++ nodes value ++ nodesOfEntries rest

end

/-- The number of the anchor a node carries. -/
def anchor? : Node → Option Nat
  | .scalar properties _ _ | .sequence properties _ | .mapping properties _ =>
    properties.anchor
  | .alias _ => none

/-- The marks it takes to write a node without those below it: a collection is
opened and closed. -/
def marks : Node → Nat
  | .scalar _ _ _ | .alias _ => 1
  | .sequence _ _ | .mapping _ _ => 2

/-! ## Aliases -/

/-- The anchored nodes of a tree by their numbers, the last one first. -/
def anchored (root : Node) : List (Nat × Node) :=
  (root.nodes.filterMap fun node => node.anchor?.map
    fun anchor => (anchor, node)).reverse

/-- What stands at a node: the node an alias stands for, or the node itself. The
state is the number of aliases that may still be used. -/
def target (table : List (Nat × Node)) : Node → StateT Nat Option Node
  | .alias anchor => do
    match ← get, table.lookup anchor with
    | left + 1, some node =>
      set left
      return node
    | _, _ => failure
  | node => return node

/-- Replaces the aliases of a tree whose collections nest no deeper than the bound. -/
def expand (table : List (Nat × Node)) : Nat → Node → StateT Nat Option Yaml
  | depth, node => do
    match depth, ← target table node with
    | _, .scalar properties text style => return .scalar properties.tag text style
    | depth + 1, .sequence properties items =>
      return .sequence properties.tag (← items.mapM (expand table depth))
    | depth + 1, .mapping properties entries =>
      let entries ← entries.mapM fun (key, value) => do
        return (← expand table depth key, ← expand table depth value)
      return .mapping properties.tag entries
    | _, _ => failure

end Node

/-- The deepest nesting of collections. -/
def nestingBound : Nat := 128

/-- Aliases may be used so often for every mark of the text. -/
def aliasesPerMark : Nat := 100

/-- The value of a text; none if the text is malformed. A text without document is
an empty scalar. -/
def parse? (text : String) : Option Yaml := do
  let root ← Node.parse? text
  let marks := root.nodes.foldl (fun count node => count + node.marks) 0
  let (value, _) ← (root.expand root.anchored nestingBound).run
      (aliasesPerMark * marks)
  return value

end Yaml

end SchemaDeref
