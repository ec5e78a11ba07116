import SchemaDeref.Proofs.Growth

/-!
# Comparing calls

Calls whose setups differ in their settings. The code asks for the settings in two
places: for the policy where it has met a circular reference, and for the limit of
the depth where no hop is left. All else goes the same way, so a relation of steps
that holds in these two places and goes through sequences of steps holds of whole
calls (`Comparison.derefRoot`).
-/

namespace SchemaDeref

/-! ## Steps that record no key -/

namespace Action

variable {α β : Type}

/-- A step that records no circular reference. -/
abbrev Quiet (action : Action α) : Prop := Keeps (·.memo.edges) action

namespace Quiet

theorem recallNode (node : Node) : (recallNode node).Quiet :=
  fun run => run.memo.edges_recallNode node

theorem destination (setup : Setup) (scope : Scope) (reference : Reference) :
    (reference.destination setup scope).Quiet :=
  fun run => congrArg Memo.edges (reference.memo_destination setup scope run)

end Quiet

end Action

/-! ## Comparisons -/

/-- A relation of steps that holds between a quiet step and itself, and goes through
sequences. -/
structure Comparison where
  rel : {α : Type} → Action α → Action α → Prop
  quiet : ∀ {α : Type} {action : Action α}, action.Quiet → rel action action
  bind : ∀ {α β : Type} {first first' : Action α} {next next' : α → Action β},
    rel first first' → (∀ a, rel (next a) (next' a)) →
      rel (first >>= next) (first' >>= next')

namespace Comparison

variable (C : Comparison)

theorem map {α β : Type} {action action' : Action α} (f : α → β)
    (h : C.rel action action') :
    C.rel (f <$> action) (f <$> action') := by
  rw [map_eq_pure_bind, map_eq_pure_bind]
  exact C.bind h fun a => C.quiet (.pure (f a))

theorem mapM {α β : Type} {f f' : α → Action β} {xs : List α}
    (h : ∀ x ∈ xs, C.rel (f x) (f' x)) : C.rel (xs.mapM f) (xs.mapM f') := by
  induction xs with
  | nil => exact C.quiet (.pure [])
  | cons x xs ih =>
    rw [List.mapM_cons, List.mapM_cons]
    refine C.bind (h x List.mem_cons_self) fun b => ?_
    exact C.bind (ih fun y hy => h y (List.mem_cons_of_mem _ hy))
      fun bs => C.quiet (.pure _)

/-- The setups have one loader, and what they do at circular references compares. -/
structure Setups (setup setup' : Setup) : Prop where
  loader : setup'.loader = setup.loader
  circles : ∀ scope reference,
    C.rel (Reference.circle setup scope reference)
      (Reference.circle setup' scope reference)

/-- The ways to a target compare: so does whatever is done with them, the failure
included where there is none. -/
def Hops (setup setup' : Setup) (hop hop' : Option Hop) : Prop :=
  ∀ (target : String) (next next' : Hop → Action Outcome),
    (∀ go go' : Hop, (∀ node scope, C.rel (go node scope) (go' node scope)) →
      C.rel (next go) (next' go')) →
    C.rel (Reference.nextHop setup hop target >>= next)
      (Reference.nextHop setup' hop' target >>= next')

variable {C} {setup setup' : Setup}

theorem Hops.some {go go' : Hop}
    (h : ∀ node scope, C.rel (go node scope) (go' node scope)) :
    C.Hops setup setup' (some go) (some go') := by
  intro target next next' hnext
  simp only [Reference.nextHop, pure_bind]
  exact hnext go go' h

/-- Under one limit of the depth the two fail with the same error. -/
theorem Hops.none (h : setup'.settings.maxDepth = setup.settings.maxDepth) :
    C.Hops setup setup' none none := by
  intro target next next' _
  simp only [Reference.nextHop, h]
  exact C.quiet (.throw _)

section

variable {hop hop' : Option Hop}

theorem pursue (hsetups : C.Setups setup setup')
    (hhop : C.Hops setup setup' hop hop') (scope : Scope) (reference : Reference) :
    C.rel (reference.pursue setup hop scope)
      (reference.pursue setup' hop' scope) := by
  have hrecall : (reference.recallTarget scope).Quiet :=
    fun run => run.memo.edges_recallTarget reference scope.base
  have hdestination : reference.destination setup' scope = reference.destination
      setup scope := by
    simp only [Reference.destination, hsetups.loader]
  refine C.bind (C.quiet hrecall) fun hit => ?_
  cases hit with
  | some result => exact C.quiet (.pure _)
  | none =>
    dsimp only
    by_cases honpath : scope.onPath (reference.key scope.base) = true
    · rw [if_pos honpath, if_pos honpath]
      exact hsetups.circles scope reference
    · rw [if_neg honpath, if_neg honpath]
      -- from here on the two have a way to the target, or the first has come to its
      -- end
      refine hhop reference.target _ _ fun go go' hgo => ?_
      by_cases hself : reference.isSelf scope.view = true
      · rw [if_pos hself, if_pos hself]
        exact hsetups.circles scope reference
      · rw [if_neg hself, if_neg hself, hdestination]
        refine C.bind (C.quiet (.destination _ scope reference)) fun destination => ?_
        refine C.bind ?_ fun result => ?_
        · refine C.bind (C.quiet (.updateMemo fun _ => rfl)) fun _ => ?_
          exact hgo _ _
        · refine C.bind (C.quiet (.updateMemo fun run => ?_))
            fun _ => C.quiet (.pure _)
          exact run.memo.edges_rememberTarget ..

theorem followIn (hsetups : C.Setups setup setup')
    (hhop : C.Hops setup setup' hop hop') (scope : Scope)
    (keywords : Keywords NodeId) :
    C.rel (Action.followIn setup hop scope keywords)
      (Action.followIn setup' hop' scope keywords) := by
  simp only [Action.followIn_eq]
  cases Keywords.reference? keywords with
  | none => exact C.quiet (.pure _)
  | some reference =>
    refine C.bind
      (C.quiet (.warnOfSeveral (fun _ _ => rfl) keywords reference.kind)) fun _ => ?_
    rw [Reference.follow_eq_pursue, Reference.follow_eq_pursue]
    exact pursue hsetups hhop scope reference.effective

theorem derefWith (hsetups : C.Setups setup setup')
    (hhop : C.Hops setup setup' hop hop') (node : Node) :
    ∀ scope, C.rel (node.derefWith setup hop scope)
      (node.derefWith setup' hop' scope) := by
  induction node using Schema.appliedInduction with
  | bool value =>
    intro scope
    rw [Schema.derefWith, Schema.derefWith]
    exact C.quiet (.pure _)
  | object id keywords ih =>
    intro scope
    rw [Schema.derefWith_object, Schema.derefWith_object]
    refine C.bind (C.quiet (.recallNode _)) fun hit => ?_
    cases hit with
    | some result => exact C.quiet (.pure result)
    | none =>
      refine C.bind (followIn hsetups hhop _ keywords) fun outcome => ?_
      rw [derefKeywords_eq, derefKeywords_eq]
      refine C.bind (C.map _ (C.mapM fun s hs => ih s hs _)) fun members => C.quiet ?_
      refine .bind (.conclude (fun _ _ => rfl) id keywords members outcome)
        fun result => ?_
      exact .bind (.updateMemo fun run => run.memo.edges_rememberNode ..)
        fun _ => .pure result

end

/-- With some hops more on one side: what holds where the other has come to its end
holds before. -/
theorem deref (hsetups : C.Setups setup setup') {more : Nat}
    (hends : C.Hops setup setup' none (setup'.hop more)) (hops : Nat) :
    ∀ node scope, C.rel (Node.deref setup hops node scope)
      (Node.deref setup' (more + hops) node scope) := by
  induction hops with
  | zero =>
    intro node scope
    rw [Node.deref_eq, Node.deref_eq]
    exact derefWith hsetups hends node scope
  | succ hops ih =>
    intro node scope
    -- behind a reference there is one hop less, and there the calls compare already
    have hsome : C.Hops setup setup' (some (Node.deref setup hops))
        (some (Node.deref setup' (more + hops))) := .some ih
    exact derefWith hsetups hsome node scope

/-- What holds at circular references, and where the first of two calls has no hop
left, holds of the whole calls. -/
theorem derefRoot (C : Comparison) {setup setup' : Setup}
    (hsetups : C.Setups setup setup') {more : Nat}
    (hmore : setup'.settings.maxDepth = more + setup.settings.maxDepth)
    (hends : C.Hops setup setup' none (setup'.hop more)) (schema : Node) :
    C.rel (Node.derefRoot setup schema) (Node.derefRoot setup' schema) := by
  refine C.bind (C.quiet fun _ => rfl) fun _ => ?_
  rw [hmore]
  refine C.bind (deref hsetups hends _ schema _) fun result => C.quiet ?_
  exact .bind (fun _ => rfl) fun run => .pure _

end Comparison

/-! ## Calls -/

/-- The failure of a call, if it failed. -/
def Completed.error? (completed : Completed) : Option DerefError :=
  match completed.result with
  | .ok _ => none
  | .error error => some error

/-- The run in which a call starts. -/
def Setup.fresh (setup : Setup) (session : Session) : Run :=
  { session with memo := .empty setup.settings.useCache, warnings := [] }

/-- A call leaves behind what its steps come to. -/
theorem dereference_eq (setup : Setup) (session : Session) (schema : Node) :
    dereference setup session schema =
      ⟨((Node.derefRoot setup schema).on (setup.fresh session)).1,
        ((Node.derefRoot setup schema).on (setup.fresh session)).2.toSession,
        ((Node.derefRoot setup schema).on (setup.fresh session)).2.warnings⟩ := rfl

/-- A call comes to an outcome if its steps do. -/
theorem dereference_eq_iff {setup : Setup} {session : Session} {schema : Node}
    {result : Except DerefError Report} {after : Session} {warnings : List Warning} :
    dereference setup session schema = ⟨result, after, warnings⟩ ↔
      ∃ memo, (Node.derefRoot setup schema).on (setup.fresh session) =
        (result, { after with memo, warnings }) := by
  rw [dereference_eq]
  obtain ⟨outcome, last⟩ := (Node.derefRoot setup schema).on (setup.fresh session)
  constructor
  · rintro ⟨⟩
    exact ⟨last.memo, rfl⟩
  · rintro ⟨memo, ⟨⟩⟩
    rfl

end SchemaDeref
