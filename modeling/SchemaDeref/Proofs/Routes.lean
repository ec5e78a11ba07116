import SchemaDeref.Proofs.Views

/-!
# Routes

The three kinds of references are followed in the same steps
(`Reference.follow_eq_pursue`): a result that is remembered is taken, a reference in
flight or one to the place it stands in is circular, and any other is expanded at
its destination. They differ in where a reference leads and in what is remembered. A
destination depends on the view and the world alone (`Reference.on_destination`).
-/

namespace SchemaDeref

/-! ## The reference that is followed -/

namespace Reference

/-- A `$dynamicRef` with a document of its own is followed as a `$ref`. -/
def effective (reference : Reference) : Reference :=
  if reference.kind = .dynamic && reference.parts.uri.isSome then
    ⟨.static, reference.target⟩
  else reference

end Reference

namespace Memo

/-- The remembered result of a reference; only results of `$ref` are remembered. -/
def recallTarget (memo : Memo) (reference : Reference)
    (base : Option String) : Option Node × Memo :=
  if reference.kind = .static then memo.recallReference base reference.target
  else (none, memo)

def rememberTarget (memo : Memo) (reference : Reference) (base : Option String)
    (result : Node) : Memo :=
  if reference.kind = .static then
    memo.rememberReference base reference.target result
  else memo

end Memo

namespace Reference

variable (setup : Setup) (hop : Option Hop)

/-- Where a reference without a document of its own ends. -/
def landing (scope : Scope) (reference : Reference) :
    Except DerefError (Landing NodeId) :=
  match reference.kind with
  | .static => scope.root.locate reference.parts.fragment
  | .recursive =>
    (scope.recursiveAnchor?.getD scope.root).locate reference.parts.fragment
  | .dynamic =>
    match dynamicPlace? scope reference.target (reference.parts.fragment.getD "") with
    | .ok (some landing) => .ok landing
    | .ok none => .ok (.found scope.root)
    | .error error => .error error

/-- The destination of a reference. -/
def destination (scope : Scope) (reference : Reference) :
    Action (Destination NodeId) :=
  match reference.parts.uri with
  | none => do
    let place ← Action.arrive (reference.landing scope)
    return ⟨place, scope.root, scope.base⟩
  | some uri => do
    let name := Uri.joinName scope.base uri
    let document ← Action.load setup.loader name reference.target
    let place ← Action.arrive (document.locate reference.parts.fragment)
    return ⟨place, document, some name⟩

def recallTarget (scope : Scope) (reference : Reference) : Action (Option Node) :=
  modifyGet fun run =>
    let (hit, memo) := run.memo.recallTarget reference scope.base
    (hit, { run with memo })

/-- Follows a reference of any kind, step by step. -/
def pursue (scope : Scope) (reference : Reference) : Action Outcome := do
  match ← recallTarget scope reference with
  | some result => return .target result
  | none =>
    if scope.onPath (reference.key scope.base) then circle setup scope reference
    else
      let go ← nextHop setup hop reference.target
      if reference.isSelf scope.view then circle setup scope reference
      else
        let destination ← reference.destination setup scope
        let result ← expand go scope reference destination.place destination.root
            destination.base
        Action.updateMemo (·.rememberTarget reference scope.base result)
        return .target result

@[simp] theorem on_recallTarget (scope : Scope) (reference : Reference) (run : Run) :
    (recallTarget scope reference).on run =
      (.ok (run.memo.recallTarget reference scope.base).1,
        { run with memo := (run.memo.recallTarget reference scope.base).2 }) := rfl

theorem recallTarget_static (scope : Scope) (target : String) :
    recallTarget scope ⟨.static, target⟩ = Action.recallReference scope.base
      target := rfl

theorem recallTarget_other {scope : Scope} {reference : Reference}
    (h : reference.kind ≠ .static) :
    recallTarget scope reference = pure none := by
  funext run
  simp only [recallTarget, Memo.recallTarget, if_neg h]
  rfl

theorem rememberTarget_other {reference : Reference} (h : reference.kind ≠ .static)
    (base : Option String)
    (result : Node) :
    Action.updateMemo (·.rememberTarget reference base result) = pure () := by
  funext run
  simp only [Memo.rememberTarget, if_neg h]
  rfl

theorem followStatic_eq (scope : Scope) (target : String) :
    followStatic setup hop scope target = pursue setup hop scope
      ⟨.static, target⟩ := by
  simp only [followStatic, pursue, recallTarget_static, Execution.perform_action]
  refine bind_congr fun hit => ?_
  cases hit with
  | some result => rfl
  | none =>
    dsimp only
    split
    · rfl
    · refine bind_congr fun go => ?_
      have hself : isSelf scope.view ⟨.static, target⟩ =
          (ReferenceParts.ofString target).isRoot := rfl
      by_cases hroot : (ReferenceParts.ofString target).isRoot = true
      · rw [if_pos hroot, if_pos (hself.trans hroot)]
      · rw [if_neg hroot, if_neg (hself ▸ hroot)]
        simp only [documentOf, destination, parts]
        cases (ReferenceParts.ofString target).uri with
        | none =>
          simp only [pure_bind, bind_assoc, landing, parts]
          rfl
        | some uri =>
          simp only [pure_bind, bind_assoc]
          rfl

theorem followRecursive_eq (scope : Scope) (target : String) :
    followRecursive setup hop scope target = pursue setup hop scope
      ⟨.recursive, target⟩ := by
  have hkind : (⟨.recursive, target⟩ : Reference).kind ≠ .static := by simp
  simp only [followRecursive, pursue, recallTarget_other hkind,
    rememberTarget_other hkind, pure_bind, Execution.perform_action]
  split
  · rfl
  · refine bind_congr fun go => ?_
    have hself : isSelf scope.view ⟨.recursive, target⟩ =
        (ReferenceParts.ofString target).isRoot := rfl
    by_cases hroot : (ReferenceParts.ofString target).isRoot = true
    · rw [if_pos hroot, if_pos (hself.trans hroot)]
    · rw [if_neg hroot, if_neg (hself ▸ hroot)]
      simp only [recursiveStart, documentOf, destination, parts]
      cases (ReferenceParts.ofString target).uri with
      | none => simp only [pure_bind, bind_assoc, landing, parts]
      | some uri => simp only [pure_bind, bind_assoc, Execution.load_action]

theorem isSelf_dynamic (scope : Scope) (target : String) :
    isSelf scope.view ⟨.dynamic, target⟩ =
      (((ReferenceParts.ofString target).fragment.getD "").isEmpty ||
        match dynamicPlace? scope target
          ((ReferenceParts.ofString target).fragment.getD "") with
        | .ok none => true
        | _ => false) := by
  simp only [isSelf, parts, dynamicPlace?]
  generalize (ReferenceParts.ofString target).fragment.getD "" = fragment
  cases hempty : fragment.isEmpty with
  | true => simp
  | false =>
    simp only [Bool.false_or, Scope.view_binding?, Option.isSome_map]
    by_cases hslash : fragment.toList.head? = some '/'
    · simp only [hslash, bne_self_eq_false, Bool.false_and, if_true]
      cases scope.root.follow fragment <;> rfl
    · have hslash' : (fragment.toList.head? != some '/') = true := by
        simpa using hslash
      simp only [hslash', Bool.true_and, if_neg hslash]
      cases hbinding : scope.binding? (splitAnchor fragment).1 with
      | none =>
        simp only [Option.isSome_none, Bool.false_and]
        cases scope.root.anchored? (splitAnchor fragment).1 with
        | none => rfl
        | some node =>
          dsimp only
          cases node.follow (splitAnchor fragment).2 <;> rfl
      | some bound =>
        simp only [Option.isSome_some, Bool.true_and]
        cases (splitAnchor fragment).2.isEmpty with
        | true => simp
        | false =>
          simp only [Bool.false_eq_true, if_false]
          cases bound.follow (splitAnchor fragment).2 <;> rfl

theorem followDynamic_eq (scope : Scope) (target : String) :
    followDynamic setup hop scope target =
      pursue setup hop scope (effective ⟨.dynamic, target⟩) := by
  have hkind : (⟨.dynamic, target⟩ : Reference).kind ≠ .static := by simp
  simp only [followDynamic, effective, parts, decide_true, Bool.true_and]
  cases huri : (ReferenceParts.ofString target).uri with
  | some uri =>
    simp only [Option.isSome_some, if_true]
    exact followStatic_eq setup hop scope target
  | none =>
    simp only [Option.isSome_none, Bool.false_eq_true, if_false, pursue,
      recallTarget_other hkind, rememberTarget_other hkind, pure_bind]
    split
    · rfl
    · refine bind_congr fun go => ?_
      rw [isSelf_dynamic]
      cases hempty : ((ReferenceParts.ofString target).fragment.getD "").isEmpty with
      | true => rfl
      | false =>
        simp only [Bool.false_eq_true, if_false, Bool.false_or, destination,
          parts, huri, landing]
        cases dynamicPlace? scope target
          ((ReferenceParts.ofString target).fragment.getD "") with
        | error error =>
          simp only [Bool.false_eq_true, if_false, Action.arrive, bind_assoc]
          rfl
        | ok place =>
          cases place with
          | none => rfl
          | some landing =>
            simp only [Bool.false_eq_true, if_false, bind_assoc, pure_bind,
              Execution.perform_action]

/-- References of all kinds are followed in the same steps. -/
theorem follow_eq_pursue (scope : Scope) (reference : Reference) :
    follow setup hop scope reference = pursue setup hop scope
      reference.effective := by
  obtain ⟨kind, target⟩ := reference
  cases kind with
  | static => exact followStatic_eq setup hop scope target
  | recursive => exact followRecursive_eq setup hop scope target
  | dynamic => exact followDynamic_eq setup hop scope target

end Reference

end SchemaDeref
