import SchemaDeref.Deref.Execution

/-!
# Following references

A reference is followed to its target, and the target is dereferenced one hop
deeper. How that is done is a parameter here (`Hop`), absent where no further hop is
allowed. A reference that is being expanded already, and one to the whole document
it stands in, is circular.
-/

namespace SchemaDeref

/-- Dereferences the target of a reference in the scope behind it. -/
abbrev Hop (m : Type → Type := Action) := Node → Scope → m Node

/-- What following a reference comes to. -/
inductive Outcome where
  /-- The dereferenced target. -/
  | target (node : Node)
  /-- The reference is circular and stays as it is written. -/
  | kept

namespace Reference

variable {m : Type → Type} [Monad m] [Execution m] (setup : Setup)
  (hop : Option (Hop m))

/-- A circular reference: a failure, or an edge that is kept. -/
def circle (scope : Scope) (reference : Reference) : Action Outcome := do
  if setup.settings.cyclePolicy.keepsEdges then
    Action.updateMemo (·.recordEdge (reference.key scope.base))
    return .kept
  else throw (.circular reference.target)

/-- The way to a target, if there is one more hop to go. -/
def nextHop (target : String) : m (Hop m) :=
  match hop with
  | some hop => pure hop
  | none => perform (throw (.tooDeep setup.settings.maxDepth target))

/-- Dereferences a target behind a reference, in the document and base it lies in. -/
def expand (go : Hop m) (scope : Scope) (reference : Reference) (target root : Node)
    (base : Option String) : m Node := do
  perform (Action.updateMemo (·.recordExpansion))
  go target (scope.descend (reference.key scope.base) root base)

/-- The document a reference names, with the base that holds in it. -/
def documentOf (scope : Scope) (uri : Option String) (target : String) :
    m (Node × Option String) :=
  match uri with
  | none => pure (scope.root, scope.base)
  | some uri => do
    let name := Uri.joinName scope.base uri
    let document ← Execution.load setup.loader name target
    return (document, some name)

/-- Follows a `$ref`. Its result is remembered by base and reference. -/
def followStatic (scope : Scope) (target : String) : m Outcome := do
  let reference : Reference := ⟨.static, target⟩
  match ← perform (Action.recallReference scope.base target) with
  | some result => return .target result
  | none =>
    if scope.onPath (reference.key scope.base) then
      perform (circle setup scope reference)
    else
      let go ← nextHop setup hop target
      let parts := ReferenceParts.ofString target
      if parts.isRoot then perform (circle setup scope reference)
      else
        let (document, base) ← documentOf setup scope parts.uri target
        let place ← perform (Action.arrive (document.locate parts.fragment))
        let result ← expand go scope reference place document base
        perform (Action.updateMemo (·.rememberReference scope.base target result))
        return .target result

/-- Where the fragment of a `$recursiveRef` is looked up, with the document and the
base around it. Without a document of its own that is the innermost recursive anchor. -/
def recursiveStart (scope : Scope) (uri : Option String) (target : String) :
    m (Node × Node × Option String) :=
  match uri with
  | none => pure (scope.recursiveAnchor?.getD scope.root, scope.root, scope.base)
  | some uri => do
    let (document, base) ← documentOf setup scope (some uri) target
    return (document, document, base)

/-- Follows a `$recursiveRef`. -/
def followRecursive (scope : Scope) (target : String) : m Outcome := do
  let reference : Reference := ⟨.recursive, target⟩
  if scope.onPath (reference.key scope.base) then
    perform (circle setup scope reference)
  else
    let go ← nextHop setup hop target
    let parts := ReferenceParts.ofString target
    if parts.isRoot then perform (circle setup scope reference)
    else
      let (start, root, base) ← recursiveStart setup scope parts.uri target
      let place ← perform (Action.arrive (start.locate parts.fragment))
      return .target (← expand go scope reference place root base)

/-- The name of an anchor and the pointer behind it. -/
def splitAnchor (fragment : String) : String × String :=
  (String.ofList (fragment.toList.takeWhile (· != '/')),
    String.ofList (fragment.toList.dropWhile (· != '/')))

/-- The place that a `$dynamicRef` without document names; none if it names a node
around it. -/
def dynamicPlace? (scope : Scope) (target fragment : String) :
    Except DerefError (Option (Landing NodeId)) :=
  if fragment.toList.head? = some '/' then (scope.root.follow fragment).map some
  else
    let (name, pointer) := splitAnchor fragment
    match scope.binding? name with
    | some bound =>
      if pointer.isEmpty then .ok none else (bound.follow pointer).map some
    | none =>
      match scope.root.anchored? name with
      | some node => (node.follow pointer).map some
      | none => .error (.unresolvedDynamic target)

/-- Follows a `$dynamicRef`. With a document of its own it is a `$ref`. -/
def followDynamic (scope : Scope) (target : String) : m Outcome := do
  let parts := ReferenceParts.ofString target
  if parts.uri.isSome then followStatic setup hop scope target
  else
    let reference : Reference := ⟨.dynamic, target⟩
    if scope.onPath (reference.key scope.base) then
      perform (circle setup scope reference)
    else
      let go ← nextHop setup hop target
      let fragment := parts.fragment.getD ""
      if fragment.isEmpty then perform (circle setup scope reference)
      else
        match dynamicPlace? scope target fragment with
        | .error error => perform (throw error)
        | .ok none => perform (circle setup scope reference)
        | .ok (some landing) =>
          let place ← perform (Action.arrive (.ok landing))
          return .target (← expand go scope reference place scope.root scope.base)

/-- Follows a reference of any kind. -/
def follow (scope : Scope) (reference : Reference) : m Outcome :=
  match reference.kind with
  | .static => followStatic setup hop scope reference.target
  | .recursive => followRecursive setup hop scope reference.target
  | .dynamic => followDynamic setup hop scope reference.target

/-! ## One branch after the other -/

theorem expand_eq (go : Hop) (scope : Scope) (reference : Reference)
    (target root : Node) (base : Option String) :
    expand go scope reference target root base = (do
      Action.updateMemo (·.recordExpansion)
      go target (scope.descend (reference.key scope.base) root base)) := rfl

end Reference

end SchemaDeref
