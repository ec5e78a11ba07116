import SchemaDeref.Deref.Reference

/-!
# Dereferencing

Every reference in a schema is replaced by the dereferenced schema it names, with
the keywords beside the reference laid over it. Below an object only its applicators
are entered; definitions stay as they are until something refers to them. An object
in which nothing changes is given back as the very same node.

`Schema.derefWith` recurses on the schema and `Node.deref` on the number of hops
left, so every call ends, with or without circular references.

Members of one object, list or map are dereferenced on branches of their own. How
these go on beside each other is left to the `Execution`. In `Node.deref` and
`dereference` every request is answered at once, so that a branch ends before the
next one begins; what holds of them holds of calls that never wait. A call that
waits is `dereferenceWaiting`, and what it shares with this one is told there.
-/

namespace SchemaDeref

mutual

/-- Whether two keyword values hold the same nodes at the same places. -/
def Keyword.isSame : Keyword NodeId → Keyword NodeId → Bool
  | .schema a, .schema b => a.isSameNode b
  | .list as, .list bs => areSameItems as bs
  | .map as, .map bs => areSameEntries as bs
  | .value _, .value _ => true
  | _, _ => false

def areSameItems : List (Keyword NodeId) → List (Keyword NodeId) → Bool
  | [], [] => true
  | a :: as, b :: bs => a.isSame b && areSameItems as bs
  | _, _ => false

def areSameEntries :
    List (String × Keyword NodeId) → List (String × Keyword NodeId) → Bool
  | [], [] => true
  | (_, a) :: as, (_, b) :: bs => a.isSame b && areSameEntries as bs
  | _, _ => false

end

namespace Action

/-- An object with its keywords dereferenced: itself if nothing changed. -/
def rebuild (id : NodeId) (keywords result : Keywords NodeId) : Action Node :=
  if areSameEntries result keywords then pure (.object id keywords)
  else newObject result

/-- The keywords beside a reference laid over its target. -/
def layOver (target : Node) (siblings : Keywords NodeId) : Action Node :=
  if siblings.isEmpty then pure target
  else
    match target with
    | .bool false => pure (.bool false)
    | .bool true => newObject siblings
    | .object _ keywords => newObject (Members.overwrite keywords siblings)

/-- Warns of a node with several kinds of references. -/
def warnOfSeveral (keywords : Keywords NodeId)
    (followed : ReferenceKind) : Action Unit :=
  let kinds := Keywords.referenceKinds keywords
  if kinds.length > 1 then warn (.severalReferences kinds followed) else pure ()

/-- Follows the reference of an object, if it has one. -/
def followIn {m : Type → Type} [Monad m] [Execution m] (setup : Setup)
    (hop : Option (Hop m)) (scope : Scope) (keywords : Keywords NodeId) : m Outcome :=
  match Keywords.reference? keywords with
  | none => pure .kept
  | some reference => do
    perform (warnOfSeveral keywords reference.kind)
    reference.follow setup hop scope

/-- An object whose reference came to an outcome and whose keywords were
dereferenced. -/
def conclude (id : NodeId) (keywords result : Keywords NodeId) : Outcome → Action Node
  | .kept => rebuild id keywords result
  | .target target => layOver target (Keywords.siblings result)

end Action

section

variable {m : Type → Type} [Monad m] [Execution m] (setup : Setup)
  (hop : Option (Hop m))

mutual

/-- Dereferences a schema, with `hop` for the targets of its references. -/
def Schema.derefWith (scope : Scope) : Node → m Node
  | .bool value => pure (.bool value)
  | .object id keywords => do
    match ← perform (Action.recallNode (.object id keywords)) with
    | some result => return result
    | none =>
      let inner := scope.enter id keywords
      let outcome ← Action.followIn setup hop inner keywords
      let members ← derefKeywords inner keywords
      let result ← perform (Action.conclude id keywords members outcome)
      perform (Action.updateMemo (·.rememberNode (.object id keywords) result))
      return result

/-- Dereferences the applicators among keywords, each on a branch of its own. -/
def derefKeywords (scope : Scope) :
    List (String × Keyword NodeId) → m (List (String × Keyword NodeId))
  | [] => pure []
  | (name, keyword) :: rest => do
    let (result, others) ← Execution.both
      (if (Shape.ofKeyword name).isApplicator then keyword.derefWith scope
        else pure keyword)
      (derefKeywords scope rest)
    return (name, result) :: others

def Keyword.derefWith (scope : Scope) : Keyword NodeId → m (Keyword NodeId)
  | .schema s => do return .schema (← s.derefWith scope)
  | .list items => do return .list (← derefItems scope items)
  | .map entries => do return .map (← derefEntries scope entries)
  | .value data => pure (.value data)

def derefItems (scope : Scope) : List (Keyword NodeId) → m (List (Keyword NodeId))
  | [] => pure []
  | item :: rest => do
    let (result, others) ← Execution.both (item.derefWith scope)
        (derefItems scope rest)
    return result :: others

def derefEntries (scope : Scope) :
    List (String × Keyword NodeId) → m (List (String × Keyword NodeId))
  | [] => pure []
  | (name, entry) :: rest => do
    let (result, others) ← Execution.both (entry.derefWith scope)
        (derefEntries scope rest)
    return (name, result) :: others

end

end

/-! ## One branch after the other -/

theorem Action.followIn_eq (setup : Setup) (hop : Option Hop) (scope : Scope)
    (keywords : Keywords NodeId) :
    followIn setup hop scope keywords =
      (match Keywords.reference? keywords with
      | none => pure .kept
      | some reference => do
        warnOfSeveral keywords reference.kind
        reference.follow setup hop scope) := rfl

theorem Schema.derefWith_object (setup : Setup) (hop : Option Hop) (scope : Scope)
    (id : NodeId) (keywords : Keywords NodeId) :
    (Schema.object id keywords).derefWith setup hop scope = (do
      match ← Action.recallNode (.object id keywords) with
      | some result => return result
      | none =>
        let inner := scope.enter id keywords
        let outcome ← Action.followIn setup hop inner keywords
        let members ← derefKeywords setup hop inner keywords
        let result ← Action.conclude id keywords members outcome
        Action.updateMemo (·.rememberNode (.object id keywords) result)
        return result) := rfl

/-! ## Hops -/

/-- Dereferences a node with so many hops left. -/
def Node.derefIn (m : Type → Type) [Monad m] [Execution m] (setup : Setup) :
    Nat → Hop m
  | 0 => fun node scope => node.derefWith setup none scope
  | hops + 1 =>
    fun node scope => node.derefWith setup (some (Node.derefIn m setup hops)) scope

/-- Dereferences a node, one branch after the other. -/
def Node.deref (setup : Setup) : Nat → Hop := Node.derefIn Action setup

/-! ## Calls -/

/-- The result of a call. -/
structure Report where
  schema : Node
  /-- The keys of the circular references that were kept, in ascending order. -/
  edges : List String
  stats : Stats

/-- All that a call leaves behind. -/
structure Completed where
  result : Except DerefError Report
  session : Session
  warnings : List Warning

/-- A call from the root of a schema, which is registered first if it has an
identifier. -/
def Node.derefRootIn (m : Type → Type) [Monad m] [Execution m] (setup : Setup)
    (schema : Node) :
    m Report := do
  perform (Action.register schema none)
  let result ← Node.derefIn m setup setup.settings.maxDepth schema
      (.start schema none)
  let memo := (← perform get).memo
  return ⟨result, memo.edges, memo.stats⟩

def Node.derefRoot (setup : Setup) (schema : Node) : Action Report :=
  Node.derefRootIn Action setup schema

theorem Node.derefRoot_eq (setup : Setup) (schema : Node) :
    Node.derefRoot setup schema = (do
      Action.register schema none
      let result ← Node.deref setup setup.settings.maxDepth schema
          (.start schema none)
      let memo := (← get).memo
      return ⟨result, memo.edges, memo.stats⟩) := rfl

/-- Dereferences a schema in a session, with a loader that answers at once: a call
that never waits. -/
def dereference (setup : Setup) (session : Session) (schema : Node) : Completed :=
  let run : Run :=
    { session with memo := .empty setup.settings.useCache, warnings := [] }
  let (result, run) := (Node.derefRoot setup schema).run.run run
  ⟨result, run.toSession, run.warnings⟩

end SchemaDeref
