import SchemaDeref.Deref.Reference
import SchemaDeref.Proofs.Anchors

/-!
# Views

What a scope shows without identities, and what a reference comes to in it: a view
has the documents a scope has, and a world the documents and requests a run has.
Where a reference leads depends on these alone.
-/

namespace SchemaDeref

/-! ## Places in a document -/

/-- The place in a document that the fragment of a reference names; an anchor names
the first schema that has it in the order the document is written. -/
def Document.locate (document : Document)
    (fragment : Option String) : Except DerefError Document :=
  match fragment with
  | none => .ok document
  | some fragment =>
    match fragment.toList with
    | [] => .ok document
    | '/' :: _ => document.at fragment
    | _ =>
      match document.preorder.find? (Schema.isAnchored fragment) with
      | some s => .ok s
      | none => document.at fragment

theorem Landing.erase_document (landing : Landing Unit) :
    landing.erase = landing.document := by
  cases landing with
  | found schema => exact schema.erase_document
  | reread document => rfl

theorem Schema.at_erase {ι : Type} (schema : Schema ι) (pointer : String) :
    schema.erase.at pointer = (schema.follow pointer).map Landing.erase := by
  have hdocument : (Landing.document : Landing Unit → Document) = Landing.erase :=
    funext fun landing => landing.erase_document.symm
  rw [Schema.at, hdocument, schema.follow_erase]

theorem Schema.Laid.find?_erase {layout : Layout} {document : Node}
    (h : document.Laid layout) (name : String) :
    document.erase.preorder.find? (Schema.isAnchored name) =
      (document.anchored? name).map Schema.erase := by
  have hcomp : Schema.isAnchored name ∘ Schema.erase =
      (Schema.isAnchored name : Node → Bool) :=
        funext fun s => s.isAnchored_erase name
  rw [document.preorder_erase, List.find?_map, h.anchored?_eq, hcomp]

/-- A fragment names one place, with or without identities. -/
theorem Schema.Laid.locate_erase {layout : Layout} {document : Node}
    (h : document.Laid layout) (fragment : Option String) :
    Document.locate document.erase fragment = (document.locate fragment).map
      Landing.erase := by
  cases fragment with
  | none => rfl
  | some fragment =>
    rw [Document.locate, Node.locate]
    cases hchars : fragment.toList with
    | nil => rfl
    | cons c rest =>
      by_cases hc : c = '/'
      · subst hc
        exact document.at_erase fragment
      · simp only [h.find?_erase, document.at_erase]
        cases document.anchored? fragment <;> simp [hc, Except.map, Landing.erase]

/-! ## What a scope shows -/

/-- A scope without identities. -/
structure View where
  root : Document
  base : Option String
  path : List String
  anchors : List Document
  bindings : List (String × Document)

namespace View

def onPath (view : View) (key : String) : Bool := view.path.contains key

/-- The innermost schema with a recursive anchor. -/
def recursiveAnchor? (view : View) : Option Document := view.anchors.head?

/-- The innermost schema with a dynamic anchor of a name. -/
def binding? (view : View) (name : String) : Option Document :=
  view.bindings.lookup name

/-- The view inside an object. -/
def enter (view : View) (keywords : Keywords Unit) : View where
  root := view.root
  base := Keywords.baseWithin view.base keywords
  path := view.path
  anchors :=
    if Keywords.hasRecursiveAnchor keywords then .object () keywords :: view.anchors
    else view.anchors
  bindings :=
    match Keywords.dynamicAnchor? keywords with
    | some name => (name, .object () keywords) :: view.bindings
    | none => view.bindings

/-- The view behind a reference. -/
def descend (view : View) (key : String) (root : Document)
    (base : Option String) : View :=
  { view with root, base, path := key :: view.path }

end View

namespace Scope

def view (scope : Scope) : View where
  root := scope.root.erase
  base := scope.base
  path := scope.path
  anchors := scope.anchors.map Schema.erase
  bindings := scope.bindings.map fun (name, node) => (name, node.erase)

@[simp] theorem view_root (scope : Scope) : scope.view.root = scope.root.erase := rfl

@[simp] theorem view_base (scope : Scope) : scope.view.base = scope.base := rfl

@[simp] theorem view_onPath (scope : Scope) (key : String) :
    scope.view.onPath key = scope.onPath key := rfl

theorem view_recursiveAnchor? (scope : Scope) :
    scope.view.recursiveAnchor? = scope.recursiveAnchor?.map Schema.erase :=
  List.head?_map

theorem view_binding? (scope : Scope) (name : String) :
    scope.view.binding? name = (scope.binding? name).map Schema.erase := by
  simp only [View.binding?, view, binding?]
  induction scope.bindings with
  | nil => rfl
  | cons entry rest ih =>
    obtain ⟨n, node⟩ := entry
    simp only [List.map_cons, List.lookup_cons]
    split
    · rfl
    · exact ih

theorem view_enter (scope : Scope) (id : NodeId) (keywords : Keywords NodeId) :
    (scope.enter id keywords).view = scope.view.enter (eraseEntries keywords) := by
  simp only [enter, View.enter, Keywords.hasRecursiveAnchor_erase,
    Keywords.dynamicAnchor?_erase, Keywords.baseWithin_erase]
  cases Keywords.hasRecursiveAnchor keywords <;> cases Keywords.dynamicAnchor?
    keywords <;> simp [view, withAnchor, withBinding]

/-- Inside an object the same references are in flight. -/
theorem path_enter (scope : Scope) (id : NodeId) (keywords : Keywords NodeId) :
    (scope.enter id keywords).path = scope.path :=
  congrArg View.path (scope.view_enter id keywords)

theorem view_descend (scope : Scope) (key : String) (root : Node)
    (base : Option String) :
    (scope.descend key root base).view = scope.view.descend key root.erase base := rfl

/-- All nodes a scope shows lie where the layout says. -/
structure Laid (layout : Layout) (scope : Scope) : Prop where
  root : scope.root.Laid layout
  anchors : ∀ node ∈ scope.anchors, node.Laid layout
  bindings : ∀ entry ∈ scope.bindings, entry.2.Laid layout

namespace Laid

variable {scope : Scope}

theorem mono {old new : Layout} (h : scope.Laid old) (ext : old.Extends new) :
    scope.Laid new where
  root := h.root.mono ext
  anchors node hnode := (h.anchors node hnode).mono ext
  bindings entry hentry := (h.bindings entry hentry).mono ext

variable {layout : Layout}

theorem start {root : Node} (h : root.Laid layout) (base : Option String) :
    (Scope.start root base).Laid layout where
  root := h
  anchors := by simp [Scope.start]
  bindings := by simp [Scope.start]

theorem enter (h : scope.Laid layout) {id : NodeId} {keywords : Keywords NodeId}
    (hnode : Schema.Laid layout (.object id keywords)) :
    (scope.enter id keywords).Laid layout := by
  have hanchors : ∀ node ∈ (Schema.object id keywords) :: scope.anchors,
      node.Laid layout :=
    List.forall_mem_cons.mpr ⟨hnode, h.anchors⟩
  have hbindings : ∀ name, ∀ entry ∈ (name, Schema.object id keywords) ::
      scope.bindings,
      entry.2.Laid layout := fun name => List.forall_mem_cons.mpr ⟨hnode, h.bindings⟩
  simp only [Scope.enter]
  cases Keywords.hasRecursiveAnchor keywords <;>
    cases Keywords.dynamicAnchor? keywords
  · exact ⟨h.root, h.anchors, h.bindings⟩
  · exact ⟨h.root, h.anchors, hbindings _⟩
  · exact ⟨h.root, hanchors, h.bindings⟩
  · exact ⟨h.root, hanchors, hbindings _⟩

theorem descend (h : scope.Laid layout) {root : Node} (hroot : root.Laid layout)
    (key : String) (base : Option String) :
    (scope.descend key root base).Laid layout :=
  ⟨hroot, h.anchors, h.bindings⟩

theorem recursiveAnchor (h : scope.Laid layout) :
    (scope.recursiveAnchor?.getD scope.root).Laid layout := by
  cases hanchor : scope.recursiveAnchor? with
  | none => exact h.root
  | some node => exact h.anchors node (List.mem_of_head? hanchor)

theorem binding (h : scope.Laid layout) {name : String} {node : Node}
    (hbinding : scope.binding? name = some node) : node.Laid layout := by
  obtain ⟨front, back, heq, _⟩ := List.lookup_eq_some_iff.mp hbinding
  exact h.bindings (name, node) (heq ▸ by simp)

end Laid

end Scope

/-! ## Places without a document of their own -/

namespace Reference

def parts (reference : Reference) : ReferenceParts :=
  ReferenceParts.ofString reference.target

/-- Whether a reference names the place it stands in: the whole document, or a node
around it. -/
def isSelf (view : View) (reference : Reference) : Bool :=
  match reference.kind with
  | .static | .recursive => reference.parts.isRoot
  | .dynamic =>
    let fragment := reference.parts.fragment.getD ""
    let (name, pointer) := splitAnchor fragment
    fragment.isEmpty ||
      (fragment.toList.head? != some '/' && (view.binding? name).isSome &&
        pointer.isEmpty)

end Reference

namespace View

/-- The place a `$dynamicRef` names. -/
def dynamicPlace (view : View)
    (target fragment : String) : Except DerefError Document :=
  if fragment.toList.head? = some '/' then view.root.at fragment
  else
    let (name, pointer) := Reference.splitAnchor fragment
    match view.binding? name with
    | some bound => bound.at pointer
    | none =>
      match view.root.preorder.find? (Schema.isAnchored name) with
      | some s => s.at pointer
      | none => .error (.unresolvedDynamic target)

/-- The place that a reference without a document of its own names. -/
def place (view : View) (reference : Reference) : Except DerefError Document :=
  match reference.kind with
  | .static => view.root.locate reference.parts.fragment
  | .recursive =>
    (view.recursiveAnchor?.getD view.root).locate reference.parts.fragment
  | .dynamic => view.dynamicPlace reference.target (reference.parts.fragment.getD "")

end View

/-! ## Documents of their own -/

/-- The documents and the requests of a run, without identities. -/
structure World where
  catalog : Catalog Unit
  asked : List String

/-- Asks for the document of a name. -/
def World.fetch (loader : Loader) (name target : String) (world : World) :
    Except DerefError Document × World :=
  match world.catalog.get? name with
  | some document => (.ok document, world)
  | none =>
    let asked := world.asked ++ [name]
    match loader world.asked name with
    | .document document =>
      (.ok document, ⟨world.catalog.register document (some name), asked⟩)
    | .absent => (.error (.unresolved target), { world with asked })
    | .failed message => (.error (.loader name message), { world with asked })
    | .refused error => (.error error, { world with asked })

/-- The target of a reference, with the document and the base around it. -/
structure Destination (ι : Type) where
  place : Schema ι
  root : Schema ι
  base : Option String

def Destination.erase {ι : Type} (destination : Destination ι) : Destination Unit :=
  ⟨destination.place.erase, destination.root.erase, destination.base⟩

/-- Where a reference leads. -/
def View.destination (loader : Loader) (view : View) (reference : Reference)
    (world : World) :
    Except DerefError (Destination Unit) × World :=
  match reference.parts.uri with
  | none => ((view.place reference).map (⟨·, view.root, view.base⟩), world)
  | some uri =>
    let name := Uri.joinName view.base uri
    match world.fetch loader name reference.target with
    | (.ok document, after) =>
      ((document.locate reference.parts.fragment).map (⟨·, document, some name⟩),
        after)
    | (.error error, after) => (.error error, after)

end SchemaDeref
