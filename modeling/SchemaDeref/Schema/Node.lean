import SchemaDeref.Schema.Basic

/-!
# Identities

A node is a schema whose objects are marked by numbers. Numbers are handed out in
ascending order, so objects marked at different times never share one; `Schema.mint`
marks all objects of a document in the order they are written.
-/

namespace SchemaDeref

/-- The identity of an object. -/
abbrev NodeId := Nat

/-- A schema whose objects have identities. -/
abbrev Node := Schema NodeId

variable {ι : Type}

mutual

/-- Marks every object with a number of its own, from `next` on; also gives the next
free one. -/
def Schema.mint (next : NodeId) : Schema ι → Node × NodeId
  | .bool value => (.bool value, next)
  | .object _ keywords =>
    let (keywords, after) := mintEntries (next + 1) keywords
    (.object next keywords, after)

def Keyword.mint (next : NodeId) : Keyword ι → Keyword NodeId × NodeId
  | .schema schema =>
    let (schema, after) := schema.mint next
    (.schema schema, after)
  | .list items =>
    let (items, after) := mintItems next items
    (.list items, after)
  | .map entries =>
    let (entries, after) := mintEntries next entries
    (.map entries, after)
  | .value data => (.value data, next)

def mintItems (next : NodeId) : List (Keyword ι) → List (Keyword NodeId) × NodeId
  | [] => ([], next)
  | item :: rest =>
    let (item, after) := item.mint next
    let (rest, last) := mintItems after rest
    (item :: rest, last)

def mintEntries (next : NodeId) :
    List (String × Keyword ι) → List (String × Keyword NodeId) × NodeId
  | [] => ([], next)
  | (name, keyword) :: rest =>
    let (keyword, after) := keyword.mint next
    let (rest, last) := mintEntries after rest
    ((name, keyword) :: rest, last)

end

end SchemaDeref
