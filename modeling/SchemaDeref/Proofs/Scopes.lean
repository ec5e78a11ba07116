import SchemaDeref.Proofs.Bases
import SchemaDeref.Proofs.Depth

/-!
# What a scope shows

A way goes from the schema of a call from object to object, to what an object
applies or to where its reference leads (`Way.LeadsTo`). The scope at its end is
made of the objects entered on it and of the references followed on it
(`Reaches.scope_eq`), so nothing shows in it that was entered beside the way, before
or after. Its anchors are the last objects of the way that have them, its depth is
the number of references, and its base is the one handed over with the last
reference, joined with the identifiers of the objects entered since (`scope_shows`).
-/

namespace SchemaDeref

/-! ## The objects of a way -/

namespace Way

/-- The objects entered on a way, outermost first. -/
def entered : Way → List Node
  | [] => []
  | .entered id keywords :: rest => entered rest ++ [.object id keywords]
  | .followed _ _ :: rest => entered rest

/-- The objects entered since the last reference that was followed, outermost first. -/
def enteredSince : Way → List Node
  | [] => []
  | .entered id keywords :: rest => enteredSince rest ++ [.object id keywords]
  | .followed _ _ :: _ => []

/-- `way.LeadsTo schema node`: from the schema the way leads to the node. The
objects entered on it hold or refer to one another. -/
inductive LeadsTo (schema : Node) : Way → Node → Prop
  | start : LeadsTo schema [] schema
  | applied {way : Way} {id keywords node}
    (object : LeadsTo schema way (.object id keywords))
    (mem : node ∈ Keywords.applied keywords) :
    LeadsTo schema (.entered id keywords :: way) node
  | referred {way : Way} {id keywords reference destination}
    (object : LeadsTo schema way (.object id keywords))
    (some : Keywords.reference? keywords = some reference) :
    LeadsTo schema (.followed reference.effective destination ::
      .entered id keywords :: way)
      destination.place

/-- The base handed over with the last reference, joined with the identifiers of the
objects entered since. -/
theorem base_eq (way : Way) :
    way.base = way.enteredSince.foldl (fun base node => node.baseInside base)
      (way.lastFollowed?.bind fun last => last.2.base) := by
  induction way with
  | nil => rfl
  | cons passage rest ih =>
    cases passage with
    | entered id keywords =>
      rw [base, ih, enteredSince, List.foldl_append]
      rfl
    | followed reference destination => rfl

/-- The scope at the end of a way in the call for a schema. -/
def scope (schema : Node) : Way → Scope
  | [] => .start schema none
  | .entered id keywords :: rest => (scope schema rest).enter id keywords
  | .followed reference destination :: rest =>
    (scope schema rest).descend (reference.key (scope schema rest).base)
      destination.root destination.base

end Way

/-! ## Anchors -/

namespace Schema

variable {ι : Type}

/-- Whether a schema is a recursive anchor. -/
def isRecursiveAnchor (schema : Schema ι) : Bool :=
  schema.keywords?.any Keywords.hasRecursiveAnchor

/-- The dynamic anchor of a schema. -/
def dynamicAnchor? (schema : Schema ι) : Option String :=
  schema.keywords? >>= Keywords.dynamicAnchor?

end Schema

theorem getLast?_filter_concat {α : Type} (p : α → Bool) (xs : List α) (x : α) :
    ((xs ++ [x]).filter p).getLast? = if p x then some x
    else (xs.filter p).getLast? := by
  rw [List.filter_append]
  by_cases hx : p x = true
  · rw [List.filter_cons_of_pos hx, List.filter_nil, List.getLast?_concat, if_pos hx]
  · rw [List.filter_cons_of_neg hx, List.filter_nil, List.append_nil, if_neg hx]

namespace Scope

variable (scope : Scope) (id : NodeId) (keywords : Keywords NodeId)

theorem recursiveAnchor?_enter : (scope.enter id keywords).recursiveAnchor? =
    if Keywords.hasRecursiveAnchor keywords then some (.object id keywords)
    else scope.recursiveAnchor? := by
  simp only [enter]
  split <;> split <;> rfl

theorem binding?_withBinding (other name : String) (node : Node) :
    (scope.withBinding other node).binding? name =
      if other = name then some node else scope.binding? name := by
  show ((other, node) :: scope.bindings).lookup name = _
  rw [List.lookup_cons]
  by_cases h : other = name
  · rw [if_pos h, h, beq_self_eq_true]
  · rw [if_neg h, beq_false_of_ne (Ne.symm h)]
    rfl

theorem binding?_enter (name : String) : (scope.enter id keywords).binding? name =
    if Keywords.dynamicAnchor? keywords = some name then some (.object id keywords)
    else scope.binding? name := by
  have hanchor : ∀ scope : Scope,
      (if Keywords.hasRecursiveAnchor keywords then
        scope.withAnchor (.object id keywords)
      else scope).binding? name = scope.binding? name := by
    intro scope
    split <;> rfl
  simp only [enter]
  cases Keywords.dynamicAnchor? keywords with
  | none => exact hanchor _
  | some other =>
    dsimp only
    rw [binding?_withBinding, hanchor]
    simp only [Option.some.injEq]
    rfl

end Scope

namespace Way

/-- Its recursive anchor is the last one entered. -/
theorem recursiveAnchor?_scope (schema : Node) (way : Way) :
    (way.scope schema).recursiveAnchor? =
      (way.entered.filter Schema.isRecursiveAnchor).getLast? := by
  induction way with
  | nil => rfl
  | cons passage rest ih =>
    cases passage with
    | entered id keywords =>
      rw [scope, Scope.recursiveAnchor?_enter, entered, getLast?_filter_concat, ih]
      rfl
    | followed reference destination => exact ih

/-- The binding of a name is the last object entered that has it for its dynamic
anchor. -/
theorem binding?_scope (schema : Node) (way : Way) (name : String) :
    (way.scope schema).binding? name =
      (way.entered.filter fun node => node.dynamicAnchor? = some name).getLast? := by
  induction way with
  | nil => rfl
  | cons passage rest ih =>
    cases passage with
    | entered id keywords =>
      rw [scope, Scope.binding?_enter, entered, getLast?_filter_concat, ih]
      simp only [decide_eq_true_eq]
      rfl
    | followed reference destination => exact ih

end Way

/-! ## Ways of a call -/

/-- That the objects of a way lead to what a task is about. A link and a reference
are about the object entered last. -/
inductive Task.IsLedTo (schema : Node) : Way → Task → Prop
  | node {way : Way} {node} (leads : way.LeadsTo schema node) :
    IsLedTo schema way (.node node)
  | nodes {way : Way} {nodes} (leads : ∀ node ∈ nodes, way.LeadsTo schema node) :
    IsLedTo schema way (.nodes nodes)
  | link {way : Way} {id keywords}
    (leads : way.LeadsTo schema (.object id keywords)) :
    IsLedTo schema (.entered id keywords :: way) (.link keywords)
  | reference {way : Way} {id keywords reference}
    (leads : way.LeadsTo schema (.object id keywords))
    (some : Keywords.reference? keywords = some reference) :
    IsLedTo schema (.entered id keywords :: way) (.reference reference.effective)

section

variable {setup : Setup} {session : Session} {schema : Node} {way : Way}
  {hops : Nat} {scope : Scope} {task : Task} {run : Run}

theorem Reaches.isLedTo
    (reaches : Reaches setup session schema way hops scope task run) :
    task.IsLedTo schema way := by
  induction reaches with
  | start => exact .node .start
  | entered node fresh ih =>
    obtain ⟨leads⟩ := ih
    exact .link leads
  | applied link followed ih =>
    cases ih with
    | link leads => exact .nodes fun _ mem => .applied leads mem
  | first nodes ih =>
    cases ih with
    | nodes leads => exact .node (leads _ List.mem_cons_self)
  | next nodes dereferenced ih =>
    cases ih with
    | nodes leads => exact .nodes fun n hn => leads n (List.mem_cons_of_mem _ hn)
  | referring link some ih =>
    cases ih with
    | link leads => exact .reference leads some
  | followed referring fresh straight arrived ih =>
    cases ih with
    | reference leads some => exact .node (.referred leads some)

/-- The scope in which a task is reached is that at the end of the way. -/
theorem Reaches.scope_eq
    (reaches : Reaches setup session schema way hops scope task run) :
    scope = way.scope schema := by
  induction reaches with
  | start => rfl
  | entered node fresh ih => rw [Way.scope, ih]
  | applied _ _ ih | first _ ih | next _ _ ih | referring _ _ ih => exact ih
  | followed referring fresh straight arrived ih => rw [Way.scope, ih]

end

/-! ## Calls by ways -/

/-- Code for a node that is told the way to it, and no scope. -/
abbrev Onward := Way → Node → Action Node

section

variable (setup : Setup) (schema : Node)

/-- Follows the reference of the object entered last, if it has one, in the scope at
the end of the way. Behind the reference the way is one passage longer. -/
def Way.follow (onward : Option Onward) (way : Way)
    (keywords : Keywords NodeId) : Action Outcome :=
  match Keywords.reference? keywords with
  | none => pure .kept
  | some reference => do
    Action.warnOfSeveral keywords reference.kind
    let hop : Onward → Hop := fun go place scope =>
      go (.followed reference.effective ⟨place, scope.root, scope.base⟩ :: way) place
    reference.follow setup (onward.map hop) (way.scope schema)

/-- Dereferences a node behind a way, and what it applies behind the way that goes
on with it. -/
def Way.deref (onward : Option Onward) (way : Way) : Node → Action Node
  | .bool value => pure (.bool value)
  | .object id keywords => do
    match ← Action.recallNode (.object id keywords) with
    | some result => return result
    | none =>
      let inside : Way := .entered id keywords :: way
      let outcome ← inside.follow setup schema onward keywords
      let results ← (Keywords.applied keywords).attach.mapM fun node => inside.deref
          onward node.1
      let result ← Action.conclude id keywords (Keywords.refill keywords results)
          outcome
      Action.updateMemo (·.rememberNode (.object id keywords) result)
      return result
termination_by node => node.count
decreasing_by
  have := countEntries_le_of_mem_nodes (Keywords.applied_subset_nodes keywords node.2)
  simp only [Schema.count]
  omega

/-- How the code goes on behind a reference with so many hops left. -/
def Setup.onward : Nat → Option Onward
  | 0 => none
  | hops + 1 => some fun way node => way.deref setup schema (onward hops) node

end

variable {setup : Setup} {schema : Node}

/-- A reference goes on in scopes behind it only. -/
theorem Reference.pursue_congr {go go' : Hop} {scope : Scope} {reference : Reference}
    (h : ∀ place root base,
      go place (scope.descend (reference.key scope.base) root base) =
      go' place (scope.descend (reference.key scope.base) root base)) :
    pursue setup (some go) scope reference = pursue setup (some go') scope
      reference := by
  simp only [pursue, expand, nextHop, pure_bind, h]

/-- References are followed alike, by ways and by scopes, if what is behind them
goes on alike. -/
theorem Way.follow_eq {hops : Nat}
    (ih : ∀ less, hops = less + 1 → ∀ (way : Way) node,
      way.deref setup schema (Setup.onward setup schema less) node =
        Node.deref setup less node (way.scope schema))
    (way : Way) (keywords : Keywords NodeId) :
    way.follow setup schema (Setup.onward setup schema hops) keywords =
      Action.followIn setup (setup.hop hops) (way.scope schema) keywords := by
  rw [follow, Action.followIn_eq]
  cases Keywords.reference? keywords with
  | none => rfl
  | some reference =>
    refine bind_congr fun _ => ?_
    rw [Reference.follow_eq_pursue, Reference.follow_eq_pursue]
    cases hops with
    | zero => rfl
    | succ less =>
      exact Reference.pursue_congr fun place root base => ih less rfl _ place

/-- The code comes to the same by scopes as by ways: with the scope at the end of
each way. -/
theorem Node.deref_eq_along (hops : Nat) (way : Way) (node : Node) :
    Node.deref setup hops node (way.scope schema) =
      way.deref setup schema (Setup.onward setup schema hops) node := by
  induction hops using Nat.strongRecOn generalizing way node with
  | ind hops ih =>
    have hfollow := Way.follow_eq fun less (hless : hops = less + 1) way node =>
      (ih less (by omega) way node).symm
    induction node using Schema.appliedInduction generalizing way with
    | bool value => rw [Node.deref_eq, Schema.derefWith, Way.deref]
    | object id keywords ihapplied =>
      have happlied : ∀ node, node ∈ Keywords.applied keywords →
          Way.deref setup schema (Setup.onward setup schema hops)
            (.entered id keywords :: way) node =
            node.derefWith setup (setup.hop hops)
              ((way.scope schema).enter id keywords) := by
        intro node mem
        rw [← ihapplied node mem, Node.deref_eq]
        rfl
      rw [Node.deref_eq, Schema.derefWith_object, Way.deref]
      refine bind_congr fun hit => ?_
      cases hit with
      | some result => rfl
      | none =>
        dsimp only
        rw [hfollow, List.mapM_subtype happlied, List.unattach_attach,
          derefKeywords_eq]
        simp only [map_eq_pure_bind, bind_assoc, pure_bind]
        rfl

/-- A call goes as if the code carried along nothing but the way and took for each
object that it enters the scope at the end of the way. Wherever it comes to the
reference of an object, the way leads from its schema to the object, which is
entered last, and this scope shows the last recursive anchor entered and for every
name the last object entered that has it for its dynamic anchor, if there are any;
its depth is the number of references followed, and its base is the one handed over
with the last of them, or else none, joined with the identifiers of the objects
entered since, one after the other. So nothing shows that was entered beside the way. -/
theorem scope_shows (setup : Setup) (session : Session) (schema : Node) :
    Node.deref setup setup.settings.maxDepth schema (.start schema none) =
      Way.deref setup schema (Setup.onward setup schema setup.settings.maxDepth) []
        schema ∧
    ∀ (way : Way) hops scope keywords run,
      Reaches setup session schema way hops scope (.link keywords) run →
      (∃ id, ∃ rest : Way, way = .entered id keywords :: rest ∧
        rest.LeadsTo schema (.object id keywords)) ∧
      scope = way.scope schema ∧
      scope.recursiveAnchor? =
        (way.entered.filter Schema.isRecursiveAnchor).getLast? ∧
      (∀ name, scope.binding? name =
        (way.entered.filter fun node => node.dynamicAnchor? = some name).getLast?) ∧
      scope.depth = way.inFlight.length ∧
      scope.base = way.enteredSince.foldl (fun base node => node.baseInside base)
        (way.lastFollowed?.bind fun last => last.2.base) := by
  refine ⟨Node.deref_eq_along _ [] schema, fun way hops scope keywords
    run reaches => ?_⟩
  have hscope := reaches.scope_eq
  have hmeasures := reaches.measures
  refine ⟨?_, hscope, ?_, ?_, hmeasures.depth, ?_⟩
  · cases reaches.isLedTo with
    | link leads => exact ⟨_, _, rfl, leads⟩
  · rw [hscope, Way.recursiveAnchor?_scope]
  · intro name
    rw [hscope, Way.binding?_scope]
  · rw [hmeasures.base, Way.base_eq]

/-- Two properties, of which the first has the anchors of the root again and the
second refers to a definition with an identifier and an anchor of its own. -/
def anchoredBeside : Document :=
  .object () [("$defs",
    .map [("leaf", .schema (.object () [("$id", .value (.str "sub/leaf.json")),
        ("properties",
          .map [("x",
            .schema (.object () [("$dynamicAnchor", .value (.str "leaf"))]))])]))]),
    ("$dynamicAnchor", .value (.str "tree")),
    ("$id", .value (.str "http://a/root.json")),
    ("$recursiveAnchor", .value (.bool true)), ("properties", .map [
      ("first", .schema (.object () [("$dynamicAnchor", .value (.str "tree")),
        ("$recursiveAnchor", .value (.bool true))])),
      ("second", .schema (.object () [("$ref", .value (.str "#/$defs/leaf"))]))])]

/-- Behind the second property the anchors are those of the root. -/
theorem scope_shows_anchoredBeside :
    ∃ way hops scope keywords run,
      Reaches ⟨{}, .none⟩ (Session.empty.mint anchoredBeside).2
        (Session.empty.mint anchoredBeside).1 way hops scope (.link keywords) run ∧
      Keywords.dynamicAnchor? keywords = some "leaf" ∧
      scope.recursiveAnchor? = some (Session.empty.mint anchoredBeside).1 ∧
      scope.binding? "tree" = some (Session.empty.mint anchoredBeside).1 ∧
      scope.binding? "leaf" = some (.object 2 keywords) ∧ scope.depth = 1 ∧
      scope.base = some "http://a/sub/leaf.json" := by
  have whole : Reaches ⟨{}, .none⟩ (Session.empty.mint anchoredBeside).2
    (Session.empty.mint anchoredBeside).1 _ _ _ _ _ := .start
  have second := (((whole.entered rfl).applied rfl).next rfl).first.entered rfl
  have leaf :=
    ((second.referring rfl).followed rfl (by decide +kernel) rfl).entered rfl
  have x := (leaf.applied rfl).first.entered rfl
  obtain ⟨_, _, anchor, binding, depth, base⟩ :=
    (scope_shows ⟨{}, .none⟩ (Session.empty.mint anchoredBeside).2
      (Session.empty.mint anchoredBeside).1).2 _ _ _ _ _ x
  exact ⟨_, _, _, _, _, x, rfl, anchor.trans rfl, (binding "tree").trans rfl,
    (binding "leaf").trans rfl, depth.trans rfl, base.trans (by decide +kernel)⟩

end SchemaDeref
