import SchemaDeref.Pointer.Follow
import SchemaDeref.Schema.Subschemas

/-!
# Circular paths of a document

A search that dereferences nothing. It walks a document depth first and treats the
target of a `$ref` like a subschema; places are told apart by the pointers that lead
to them. Coming back to a pointer on the way to the current one closes a circle. The
search is bounded by the number of pointers the document has, since no pointer
occurs twice on one way.
-/

namespace SchemaDeref

variable {ι : Type}

/-! ## The number of pointers -/

/-- How many ways there are, at most, to write a token: each character plain or
escaped. -/
def Pointer.writings (token : String) : Nat := Nat.pow 2 token.length

mutual

/-- How many pointers, at most, lead from a value to itself and to what it holds. -/
def Json.pointers : Json → Nat
  | .arr items => 1 + pointersInItems items
  | .obj members => 1 + pointersInMembers members
  | _ => 1

def Json.pointersInItems : List Json → Nat
  | [] => 0
  | item :: rest => item.pointers + pointersInItems rest

def Json.pointersInMembers : List (String × Json) → Nat
  | [] => 0
  | (name, value) :: rest =>
    Pointer.writings name * value.pointers + pointersInMembers rest

end

/-- A bound on the pointers that lead somewhere in a document: the mark of a
fragment and the first slash may each be there or not. -/
def Document.pointers (document : Document) : Nat := 4 * document.toJson.pointers

/-! ## The search -/

/-- A circle: pointers each of which leads to the next, and the last to the first. -/
abbrev Circle := List String

/-- A circle on one line. -/
def Circle.text (circle : Circle) : String := " -> ".intercalate circle

/-- What a search has met. -/
structure Search where
  visited : List String
  /-- The circles found, last first. -/
  found : List Circle

/-- The pointer a reference at a place stands for: a fragment as it is, anything
else beside the place. -/
def Pointer.beside (place reference : String) : String :=
  if reference.toList.head? = some '#' then reference
  else
    let front := (place.toList.reverse.dropWhile (· != '/')).drop 1
    let parent := if place.toList.contains '/' then String.ofList front.reverse
    else place
    parent ++ "/" ++ reference

/-- The pointers from a repeated one onward; `way` is the way to the current place,
last first. -/
def Search.circle (way : List String) (pointer : String) : Circle :=
  pointer :: (way.takeWhile (· != pointer)).reverse

/-- Where the reference of an object leads, if it leads anywhere in the document. -/
def Document.referred? (document : Document) (pointer : String)
    (keywords : Keywords Unit) :
    Option (String × Document) := do
  let reference ← Keywords.string? keywords ReferenceKind.static.keyword
  let target := Pointer.beside pointer reference
  match document.at target with
  | .ok schema => some (target, schema)
  | .error _ => none

/-- The places one step from an object: first where its reference leads, then its
subschemas. -/
def Document.successors (document : Document) (pointer : String)
    (keywords : Keywords Unit) :
    List (String × Document) :=
  (document.referred? pointer keywords).toList ++
    (Keywords.subschemas keywords).map fun sub =>
      (pointer ++ "/" ++ sub.pointer, sub.schema)

/-- Visits a place and everything behind it that has not been visited; none if the
way becomes longer than the budget. -/
def Document.visit (document : Document) :
    Nat → List String → String × Document → Search → Option Search
  | 0, _, _, _ => none
  | budget + 1, way, (pointer, schema), search =>
    if way.contains pointer then
      some { search with found := Search.circle way pointer :: search.found }
    else if search.visited.contains pointer then some search
    else
      let search := { search with visited := pointer :: search.visited }
      match schema with
      | .bool _ => some search
      | .object _ keywords =>
        (document.successors pointer keywords).foldlM
          (fun search place => document.visit budget (pointer :: way) place search)
          search

/-- The circles that can be reached from the root, in the order the search closes
them. -/
def Document.circles (document : Document) : List Circle :=
  match document.visit (document.pointers + 1) [] ("#", document) ⟨[], []⟩ with
  | some search => search.found.reverse
  | none => []

end SchemaDeref
