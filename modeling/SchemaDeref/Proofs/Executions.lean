import SchemaDeref.Proofs.Steps

/-!
# Comparing executions

The code of a call asks the loader in one place. Everything else it does is a step
that asks nothing, a sequence, or a pair of branches. So a relation of two
executions that holds of such steps and of requests, and goes through sequences and
pairs, holds of whole calls (`Accord.derefRootIn`).
-/

namespace SchemaDeref

/-! ## Steps that ask nothing -/

namespace Action

variable {α : Type}

/-- A step that does not ask the loader. -/
abbrev Silent (action : Action α) : Prop := Keeps (·.asked) action

namespace Silent

theorem arrive (landing : Except DerefError (Landing NodeId)) :
    (arrive landing).Silent := by
  cases landing with
  | error error => exact .throw error
  | ok place =>
    cases place with
    | found node => exact .pure node
    | reread document => exact fun _ => rfl

theorem settle (uri reference : String) (reply : Reply) :
    (settle uri reference reply).Silent := by
  cases reply with
  | absent => exact .throw _
  | document document => exact fun _ => rfl
  | failed message => exact fun _ => rfl
  | refused error => exact fun _ => rfl

theorem circle (setup : Setup) (scope : Scope) (reference : Reference) :
    (reference.circle setup scope).Silent := by
  simp only [Reference.circle]
  split
  · exact fun _ => rfl
  · exact .throw _

end Silent

end Action

/-! ## Relations -/

/-- A relation of two executions that holds between a step that asks nothing and
itself, between requests, and goes through sequences and pairs of branches. Values
of different types may be handed on, which the ways to targets are. -/
structure Accord (m m' : Type → Type) [Monad m] [Execution m] [Monad m']
    [Execution m'] where
  rel : {α : Type} → m α → m' α → Prop
  pure : ∀ {α : Type} (a : α), rel (Pure.pure a) (Pure.pure a)
  bind : ∀ {α β : Type} {first : m α} {first' : m' α} {next : α → m β}
    {next' : α → m' β},
    rel first first' → (∀ a, rel (next a) (next' a)) →
      rel (first >>= next) (first' >>= next')
  given : ∀ {α α' β : Type} (a : α) (a' : α') {next : α → m β} {next' : α' → m' β},
    rel (next a) (next' a') → rel (Pure.pure a >>= next) (Pure.pure a' >>= next')
  failed : ∀ {α α' β : Type} (error : DerefError) (next : α → m β)
    (next' : α' → m' β),
    rel (Execution.perform (throw error) >>= next)
      (Execution.perform (throw error) >>= next')
  step : ∀ {α : Type} {action : Action α}, action.Silent →
    rel (Execution.perform action) (Execution.perform action)
  ask : ∀ loader uri, rel (Execution.ask loader uri) (Execution.ask loader uri)
  both : ∀ {α β : Type} {first : m α} {first' : m' α} {second : m β} {second' : m' β},
    rel first first' → rel second second' →
      rel (Execution.both first second) (Execution.both first' second')

namespace Accord

variable {m m' : Type → Type} [Monad m] [Execution m] [Monad m'] [Execution m']
  (C : Accord m m')

/-- The ways to targets agree, or no further hop is allowed on either side. -/
inductive Hops : Option (Hop m) → Option (Hop m') → Prop
  | none : Hops none none
  | some {go : Hop m} {go' : Hop m'}
    (h : ∀ node scope, C.rel (go node scope) (go' node scope)) :
    Hops (some go) (some go')

variable {C} {hop : Option (Hop m)} {hop' : Option (Hop m')} (setup : Setup)

/-! ## References -/

theorem load (loader : Loader) (uri reference : String) :
    C.rel (Execution.load loader uri reference)
      (Execution.load loader uri reference) := by
  refine C.bind (C.step fun _ => rfl) fun run => ?_
  cases run.catalog.get? uri with
  | some document => exact C.pure document
  | none =>
    exact C.bind (C.ask loader uri) fun reply => C.step (.settle uri reference reply)

theorem documentOf (scope : Scope) (uri : Option String) (target : String) :
    C.rel (Reference.documentOf setup scope uri target)
      (Reference.documentOf setup scope uri target) := by
  cases uri with
  | none => exact C.pure _
  | some uri => exact C.bind (load ..) fun document => C.pure _

theorem recursiveStart (scope : Scope) (uri : Option String) (target : String) :
    C.rel (Reference.recursiveStart setup scope uri target)
      (Reference.recursiveStart setup scope uri target) := by
  cases uri with
  | none => exact C.pure _
  | some uri =>
    exact C.bind (documentOf setup scope (some uri) target) fun found => C.pure _

/-- What is done with the way to a target agrees, the failure included where there
is none. -/
theorem nextHop {α : Type} (h : C.Hops hop hop') (target : String)
    {next : Hop m → m α} {next' : Hop m' → m' α}
    (hnext : ∀ go go', (∀ node scope, C.rel (go node scope) (go' node scope)) →
      C.rel (next go) (next' go')) :
    C.rel (Reference.nextHop setup hop target >>= next)
      (Reference.nextHop setup hop' target >>= next') := by
  cases h with
  | none => exact C.failed _ next next'
  | some h => exact C.given _ _ (hnext _ _ h)

theorem expand {go : Hop m} {go' : Hop m'}
    (h : ∀ node scope, C.rel (go node scope) (go' node scope)) (scope : Scope)
    (reference : Reference) (target root : Node) (base : Option String) :
    C.rel (Reference.expand go scope reference target root base)
      (Reference.expand go' scope reference target root base) :=
  C.bind (C.step fun _ => rfl) fun _ => h _ _

theorem circle (scope : Scope) (reference : Reference) :
    C.rel (perform (reference.circle setup scope))
      (perform (reference.circle setup scope)) :=
  C.step (.circle setup scope reference)

theorem followStatic (h : C.Hops hop hop') (scope : Scope) (target : String) :
    C.rel (Reference.followStatic setup hop scope target)
      (Reference.followStatic setup hop' scope target) := by
  refine C.bind (C.step fun _ => rfl) fun hit => ?_
  cases hit with
  | some result => exact C.pure _
  | none =>
    dsimp only
    split
    · exact circle ..
    refine nextHop setup h target fun go go' hgo => ?_
    split
    · exact circle ..
    refine C.bind (documentOf ..) fun (document, base) => ?_
    refine C.bind (C.step (.arrive _)) fun place => ?_
    refine C.bind (expand hgo ..) fun result => ?_
    exact C.bind (C.step fun _ => rfl) fun _ => C.pure _

theorem followRecursive (h : C.Hops hop hop') (scope : Scope) (target : String) :
    C.rel (Reference.followRecursive setup hop scope target)
      (Reference.followRecursive setup hop' scope target) := by
  simp only [Reference.followRecursive]
  split
  · exact circle ..
  refine nextHop setup h target fun go go' hgo => ?_
  split
  · exact circle ..
  refine C.bind (recursiveStart ..) fun (start, root, base) => ?_
  refine C.bind (C.step (.arrive _)) fun place => ?_
  exact C.bind (expand hgo ..) fun result => C.pure _

theorem followDynamic (h : C.Hops hop hop') (scope : Scope) (target : String) :
    C.rel (Reference.followDynamic setup hop scope target)
      (Reference.followDynamic setup hop' scope target) := by
  simp only [Reference.followDynamic]
  split
  · exact followStatic setup h scope target
  split
  · exact circle ..
  refine nextHop setup h target fun go go' hgo => ?_
  split
  · exact circle ..
  split
  · exact C.step (.throw _)
  · exact circle ..
  · refine C.bind (C.step (.arrive _)) fun place => ?_
    exact C.bind (expand hgo ..) fun result => C.pure _

theorem follow (h : C.Hops hop hop') (scope : Scope) (reference : Reference) :
    C.rel (reference.follow setup hop scope) (reference.follow setup hop' scope) := by
  simp only [Reference.follow]
  split
  · exact followStatic setup h scope reference.target
  · exact followRecursive setup h scope reference.target
  · exact followDynamic setup h scope reference.target

theorem followIn (h : C.Hops hop hop') (scope : Scope) (keywords : Keywords NodeId) :
    C.rel (Action.followIn setup hop scope keywords)
      (Action.followIn setup hop' scope keywords) := by
  simp only [Action.followIn]
  split
  · exact C.pure _
  · exact C.bind (C.step (.warnOfSeveral (fun _ _ => rfl) _ _))
      fun _ => follow setup h scope _

/-! ## Schemas -/

mutual

theorem derefWith (h : C.Hops hop hop') (scope : Scope) : ∀ node : Node,
    C.rel (node.derefWith setup hop scope) (node.derefWith setup hop' scope)
  | .bool value => C.pure _
  | .object id keywords => by
    simp only [Schema.derefWith]
    refine C.bind (C.step fun _ => rfl) fun hit => ?_
    cases hit with
    | some result => exact C.pure result
    | none =>
      refine C.bind (followIn setup h _ keywords) fun outcome => ?_
      refine C.bind (derefKeywords h _ keywords) fun members => ?_
      refine C.bind (C.step (.conclude (fun _ _ => rfl) _ _ _ _)) fun result => ?_
      exact C.bind (C.step fun _ => rfl) fun _ => C.pure _

theorem derefKeywords (h : C.Hops hop hop') (scope : Scope) :
    ∀ keywords : List (String × Keyword NodeId),
      C.rel (derefKeywords setup hop scope keywords)
        (derefKeywords setup hop' scope keywords)
  | [] => C.pure _
  | (name, keyword) :: rest => by
    refine C.bind (C.both ?_ (derefKeywords h scope rest))
      fun (result, others) => C.pure _
    split
    · exact derefKeyword h scope keyword
    · exact C.pure _

theorem derefKeyword (h : C.Hops hop hop') (scope : Scope) :
    ∀ keyword : Keyword NodeId,
    C.rel (keyword.derefWith setup hop scope) (keyword.derefWith setup hop' scope)
  | .schema s => C.bind (derefWith h scope s) fun _ => C.pure _
  | .list items => C.bind (derefItems h scope items) fun _ => C.pure _
  | .map entries => C.bind (derefEntries h scope entries) fun _ => C.pure _
  | .value _ => C.pure _

theorem derefItems (h : C.Hops hop hop') (scope : Scope) :
    ∀ items : List (Keyword NodeId),
    C.rel (derefItems setup hop scope items) (derefItems setup hop' scope items)
  | [] => C.pure _
  | item :: rest =>
    C.bind (C.both (derefKeyword h scope item) (derefItems h scope rest))
      fun _ => C.pure _

theorem derefEntries (h : C.Hops hop hop') (scope : Scope) :
    ∀ entries : List (String × Keyword NodeId),
      C.rel (derefEntries setup hop scope entries)
        (derefEntries setup hop' scope entries)
  | [] => C.pure _
  | (_, entry) :: rest =>
    C.bind (C.both (derefKeyword h scope entry) (derefEntries h scope rest))
      fun _ => C.pure _

end

/-! ## Calls -/

theorem derefIn (C : Accord m m') (hops : Nat) : ∀ node scope,
    C.rel (Node.derefIn m setup hops node scope)
      (Node.derefIn m' setup hops node scope) := by
  induction hops with
  | zero => exact fun node scope => Accord.derefWith setup .none scope node
  | succ hops ih =>
    exact fun node scope => Accord.derefWith setup (.some ih) scope node

/-- A relation that goes through all that the code is made of holds of whole calls. -/
theorem derefRootIn (C : Accord m m') (schema : Node) :
    C.rel (Node.derefRootIn m setup schema) (Node.derefRootIn m' setup schema) := by
  refine C.bind (C.step fun _ => rfl) fun _ => ?_
  refine C.bind (derefIn setup C _ schema _) fun result => ?_
  exact C.bind (C.step fun _ => rfl) fun run => C.pure _

end Accord

end SchemaDeref
