import SchemaDeref.Deref.Basic
import SchemaDeref.Proofs.Destinations

/-!
# Walks

A call as a derivation. A walk takes a task in a scope from one state to another and
comes to an answer; there is a rule for every way the code can go, failures
included. The state of a walk keeps a note beside every remembered result: what it
is the result of, and in which views the steps that led to it would be the same. A
rule that takes a remembered result asks the note to be fair to the view it is used
in; what is fair is a parameter, so that a walk may ask for anything or nothing.
-/

namespace SchemaDeref

/-! ## Tasks and answers -/

/-- What a walk is asked to do. One inductive family over tasks, so that inductions
over walks are plain ones. -/
inductive Task where
  /-- Dereference a node. -/
  | node (node : Node)
  /-- Dereference nodes one after the other. -/
  | nodes (nodes : List Node)
  /-- Follow the reference of an object, if it has one. -/
  | link (keywords : Keywords NodeId)
  /-- Follow a reference. -/
  | reference (reference : Reference)

inductive Answer where
  | node (node : Node)
  | nodes (nodes : List Node)
  | outcome (outcome : Outcome)

/-- The way to a target with so many hops left. -/
def Setup.hop (setup : Setup) : Nat → Option Hop
  | 0 => none
  | hops + 1 => some (Node.deref setup hops)

theorem Node.deref_eq (setup : Setup) (hops : Nat) (node : Node) (scope : Scope) :
    Node.deref setup hops node scope = node.derefWith setup (setup.hop hops)
      scope := by
  cases hops <;> rfl

/-- The code of a task. -/
def Task.action (setup : Setup) (hops : Nat) (scope : Scope) : Task → Action Answer
  | .node n => Answer.node <$> Node.deref setup hops n scope
  | .nodes ns =>
    Answer.nodes <$> ns.mapM (Schema.derefWith setup (setup.hop hops) scope)
  | .link keywords =>
    Answer.outcome <$> Action.followIn setup (setup.hop hops) scope keywords
  | .reference r => Answer.outcome <$> r.pursue setup (setup.hop hops) scope

section

variable (setup : Setup) (hops : Nat) (scope : Scope)

theorem Task.action_node (node : Node) :
    (Task.node node).action setup hops scope =
      Answer.node <$> Node.deref setup hops node scope := rfl

theorem Task.action_nodes (nodes : List Node) :
    (Task.nodes nodes).action setup hops scope =
      Answer.nodes <$> nodes.mapM (Schema.derefWith setup (setup.hop hops) scope) :=
  rfl

theorem Task.action_link (keywords : Keywords NodeId) :
    (Task.link keywords).action setup hops scope =
      Answer.outcome <$> Action.followIn setup (setup.hop hops) scope keywords := rfl

theorem Task.action_reference (reference : Reference) :
    (Task.reference reference).action setup hops scope =
      Answer.outcome <$> reference.pursue setup (setup.hop hops) scope := rfl

end

/-! ## States -/

/-- What a remembered result is the result of. -/
inductive Mark where
  | node (node : Node)
  | reference (base target : String)

/-- The views, with the documents at hand, in which something is the same. -/
abbrev Reach := View → Catalog Unit → Prop

/-- What is asked of a remembered result where it is used. -/
abbrev Fairness := Reach → View → Catalog Unit → Prop

/-- What is known of a remembered result. -/
structure Note where
  mark : Mark
  result : Node
  /-- Where the same steps lead to it. -/
  reach : Reach

/-- A run with notes on what it remembers. -/
structure State extends Run where
  notes : List Note

namespace State

/-- The state after a look at the results of nodes. -/
def lookNode (state : State) (node : Node) : State :=
  { state with memo := (state.memo.recallNode node).2 }

/-- The state after a look at the results of references. -/
def lookReference (state : State) (reference : Reference)
    (base : Option String) : State :=
  { state with memo := (state.memo.recallTarget reference base).2 }

def noteNode (state : State) (node result : Node) (reach : Reach) : State :=
  { state with
    memo := state.memo.rememberNode node result
    notes := ⟨.node node, result, reach⟩ :: state.notes }

def noteReference (state : State) (reference : Reference) (base : Option String)
    (result : Node) (reach : Reach) : State :=
  { state with
    memo := state.memo.rememberTarget reference base result
    notes :=
      if reference.kind = .static then
        ⟨.reference (base.getD "") reference.target, result, reach⟩ :: state.notes
      else state.notes }

def recordEdge (state : State) (key : String) : State :=
  { state with memo := state.memo.recordEdge key }

def recordExpansion (state : State) : State :=
  { state with memo := state.memo.recordExpansion }

/-- The state after the warning of several references, if there are several. -/
def warned (state : State) (keywords : Keywords NodeId)
    (followed : ReferenceKind) : State :=
  let kinds := Keywords.referenceKinds keywords
  { state with
    warnings :=
      if kinds.length > 1 then state.warnings ++ [.severalReferences kinds followed]
      else state.warnings }

end State

/-! ## Views in which a reference goes the same way -/

namespace View

/-- Whether a reference is circular in a view. -/
def circles (view : View) (reference : Reference) : Bool :=
  view.onPath (reference.key view.base) || reference.isSelf view

theorem circles_of_circular {scope : Scope} {reference : Reference} {hops : Nat}
    (h : scope.onPath (reference.key scope.base) = true ∨
      0 < hops ∧ reference.isSelf scope.view = true) :
    scope.view.circles reference = true := by
  rw [circles, Bool.or_eq_true]
  exact h.imp_right And.right

/-- Whether a reference leads from a view to the destination it has in another: to
one place of the documents around, or to a document of one name, which is no other
document by now. -/
def SameWay (view other : View) (catalog : Catalog Unit) (reference : Reference)
    (destination : Destination Unit) : Prop :=
  match reference.parts.uri with
  | none => view.place reference = other.place reference
  | some uri =>
    Uri.joinName view.base uri = Uri.joinName other.base uri ∧
      ∀ document, catalog.get? (Uri.joinName other.base uri) = some document →
        document = destination.root

/-- The view behind a reference whose destination is known. A reference without a
document of its own stays in the document of the view. -/
def behind (view : View) (reference : Reference)
    (destination : Destination Unit) : View :=
  match reference.parts.uri with
  | none => view.descend (reference.key view.base) view.root view.base
  | some _ => view.descend (reference.key view.base) destination.root destination.base

end View

/-! ## Conclusions -/

/-- The document an outcome stands for; none if the reference is kept. -/
def Outcome.erase : Outcome → Option Document
  | .target node => some node.erase
  | .kept => none

/-- An object with these keywords, laid over the target of its reference if that is
replaced. -/
def Document.concluded (members : Keywords Unit) : Option Document → Document
  | none => .object () members
  | some target => target.overlaid (Keywords.siblings members)

/-! ## The rules -/

section

variable (setup : Setup) (Fair : Fairness)

/-- `Walk setup Fair hops scope task state answer after reach`: with so many hops
left, the task leads from one state to the other and comes to the answer; within
`reach` it would have gone the same way. -/
inductive Walk :
    Nat → Scope → Task → State → Except DerefError Answer → State → Reach → Prop
  | bool {hops scope value state} :
    Walk hops scope (.node (.bool value)) state (.ok (.node (.bool value))) state
      fun _ _ => True
  | recalled {hops scope id keywords state note}
    (hit : (state.memo.recallNode (.object id keywords)).1 = some note.result)
    (noted : note ∈ state.notes) (mark : note.mark = .node (.object id keywords))
    (fair : Fair note.reach scope.view state.catalog.erase) :
    Walk hops scope (.node (.object id keywords)) state (.ok (.node note.result))
      (state.lookNode (.object id keywords)) note.reach
  | unlinked {hops scope id keywords state error after reach}
    (fresh : (state.memo.recallNode (.object id keywords)).1 = none)
    (link : Walk hops (scope.enter id keywords) (.link keywords) state
      (.error error) after reach) :
    Walk hops scope (.node (.object id keywords)) state (.error error) after
      fun _ _ => False
  | unfinished {hops scope id keywords state outcome middle error after reach reach'}
    (fresh : (state.memo.recallNode (.object id keywords)).1 = none)
    (link : Walk hops (scope.enter id keywords) (.link keywords) state
      (.ok (.outcome outcome)) middle reach)
    (members : Walk hops (scope.enter id keywords)
      (.nodes (Keywords.applied keywords)) middle (.error error) after reach') :
    Walk hops scope (.node (.object id keywords)) state (.error error) after
      fun _ _ => False
  | concluded {hops scope id keywords state outcome middle results after result
      next reach reach'}
    (fresh : (state.memo.recallNode (.object id keywords)).1 = none)
    (link : Walk hops (scope.enter id keywords) (.link keywords) state
      (.ok (.outcome outcome)) middle reach)
    (members : Walk hops (scope.enter id keywords)
      (.nodes (Keywords.applied keywords)) middle (.ok (.nodes results)) after reach')
    (conclude : (Action.conclude id keywords
      (Keywords.refill keywords results) outcome).on
      after.toRun = (.ok result, { after.toRun with next }))
    (erase : result.erase = Document.concluded
      (Keywords.refill (eraseEntries keywords) (results.map Schema.erase))
      outcome.erase) :
    Walk hops scope (.node (.object id keywords)) state (.ok (.node result))
      ({ after with next }.noteNode (.object id keywords) result fun view catalog =>
        reach (view.enter (eraseEntries keywords)) catalog ∧
          reach' (view.enter (eraseEntries keywords)) catalog)
      fun view catalog =>
        reach (view.enter (eraseEntries keywords)) catalog ∧
          reach' (view.enter (eraseEntries keywords)) catalog
  | nil {hops scope state} :
    Walk hops scope (.nodes []) state (.ok (.nodes [])) state fun _ _ => True
  | headFailed {hops scope node rest state error after reach}
    (head : Walk hops scope (.node node) state (.error error) after reach) :
    Walk hops scope (.nodes (node :: rest)) state (.error error) after
      fun _ _ => False
  | tailFailed {hops scope node rest state result middle error after reach reach'}
    (head : Walk hops scope (.node node) state (.ok (.node result)) middle reach)
    (tail : Walk hops scope (.nodes rest) middle (.error error) after reach') :
    Walk hops scope (.nodes (node :: rest)) state (.error error) after
      fun _ _ => False
  | cons {hops scope node rest state result middle results after reach reach'}
    (head : Walk hops scope (.node node) state (.ok (.node result)) middle reach)
    (tail : Walk hops scope (.nodes rest) middle (.ok (.nodes results))
      after reach') :
    Walk hops scope (.nodes (node :: rest)) state (.ok (.nodes (result :: results)))
      after fun view catalog => reach view catalog ∧ reach' view catalog
  | unreferring {hops scope keywords state}
    (none : Keywords.reference? keywords = none) :
    Walk hops scope (.link keywords) state (.ok (.outcome .kept)) state
      fun _ _ => True
  | referring {hops scope keywords state reference answer after reach}
    (some : Keywords.reference? keywords = some reference)
    (follow : Walk hops scope (.reference reference.effective)
      (state.warned keywords reference.kind) answer after reach) :
    Walk hops scope (.link keywords) state answer after reach
  | reused {hops scope reference state note}
    (hit : (state.memo.recallTarget reference scope.base).1 = some note.result)
    (static : reference.kind = .static) (noted : note ∈ state.notes)
    (mark : note.mark = .reference (scope.base.getD "") reference.target)
    (fair : Fair note.reach scope.view state.catalog.erase) :
    Walk hops scope (.reference reference) state
      (.ok (.outcome (.target note.result)))
      (state.lookReference reference scope.base) note.reach
  | circled {hops scope reference state}
    (fresh : (state.memo.recallTarget reference scope.base).1 = none)
    (circular : scope.onPath (reference.key scope.base) = true ∨
      0 < hops ∧ reference.isSelf scope.view = true)
    (keeps : setup.settings.cyclePolicy.keepsEdges = true) :
    Walk hops scope (.reference reference) state (.ok (.outcome .kept))
      (state.recordEdge (reference.key scope.base))
      fun view _ => view.circles reference = true ∧
        reference.key view.base = reference.key scope.base
  | circular {hops scope reference state}
    (fresh : (state.memo.recallTarget reference scope.base).1 = none)
    (circular : scope.onPath (reference.key scope.base) = true ∨
      0 < hops ∧ reference.isSelf scope.view = true)
    (keeps : setup.settings.cyclePolicy.keepsEdges = false) :
    Walk hops scope (.reference reference) state
      (.error (.circular reference.target)) state fun _ _ => False
  | tooDeep {scope reference state}
    (fresh : (state.memo.recallTarget reference scope.base).1 = none)
    (straight : scope.onPath (reference.key scope.base) = false) :
    Walk 0 scope (.reference reference) state
      (.error (.tooDeep setup.settings.maxDepth reference.target)) state
      fun _ _ => False
  | lost {hops scope reference state error run}
    (fresh : (state.memo.recallTarget reference scope.base).1 = none)
    (straight : scope.view.circles reference = false)
    (route : reference.Arrives setup scope state.toRun (.error error) run) :
    Walk (hops + 1) scope (.reference reference) state (.error error)
      ⟨run, state.notes⟩ fun _ _ => False
  | unexpanded {hops scope reference state destination run error after reach}
    (fresh : (state.memo.recallTarget reference scope.base).1 = none)
    (straight : scope.view.circles reference = false)
    (route : reference.Arrives setup scope state.toRun (.ok destination) run)
    (target : Walk hops
      (scope.descend (reference.key scope.base) destination.root destination.base)
      (.node destination.place) (State.recordExpansion ⟨run, state.notes⟩)
      (.error error) after reach) :
    Walk (hops + 1) scope (.reference reference) state (.error error) after
      fun _ _ => False
  | expanded {hops scope reference state destination run result after reach}
    (fresh : (state.memo.recallTarget reference scope.base).1 = none)
    (straight : scope.view.circles reference = false)
    (route : reference.Arrives setup scope state.toRun (.ok destination) run)
    (target : Walk hops
      (scope.descend (reference.key scope.base) destination.root destination.base)
      (.node destination.place) (State.recordExpansion ⟨run, state.notes⟩)
      (.ok (.node result)) after reach) :
    Walk (hops + 1) scope (.reference reference) state
      (.ok (.outcome (.target result)))
      (after.noteReference reference scope.base result fun view catalog =>
        view.circles reference = false ∧
          view.SameWay scope.view catalog reference destination.erase ∧
          reach (view.behind reference destination.erase) catalog)
      fun view catalog =>
        view.circles reference = false ∧
          view.SameWay scope.view catalog reference destination.erase ∧
          reach (view.behind reference destination.erase) catalog

end

/-! ## Walks are what the code does -/

namespace Memo

theorem recallNode_fresh {memo : Memo} {node : Node}
    (h : (memo.recallNode node).1 = none) :
    (memo.recallNode node).2 = memo := by
  simp only [recallNode] at h ⊢
  split
  · rename_i henabled
    rw [if_pos henabled] at h
    split at h
    · simp at h
    · rfl
  · rfl

theorem recallReference_fresh {memo : Memo} {base : Option String} {target : String}
    (h : (memo.recallReference base target).1 = none) :
    (memo.recallReference base target).2 = memo := by
  simp only [recallReference] at h ⊢
  split
  · rename_i henabled
    rw [if_pos henabled] at h
    split at h
    · simp at h
    · rfl
  · rfl

theorem recallTarget_fresh {memo : Memo} {reference : Reference}
    {base : Option String} (h : (memo.recallTarget reference base).1 = none) :
    (memo.recallTarget reference base).2 = memo := by
  simp only [recallTarget] at h ⊢
  split
  · rename_i hkind
    rw [if_pos hkind] at h
    exact recallReference_fresh h
  · rfl

/-- Looking at the results of nodes is only counted. -/
theorem exists_recallNode (memo : Memo) (node : Node) :
    ∃ stats, (memo.recallNode node).2 = { memo with stats } := by
  simp only [recallNode]
  split
  · split
    · exact ⟨_, rfl⟩
    · exact ⟨memo.stats, rfl⟩
  · exact ⟨memo.stats, rfl⟩

theorem exists_recallTarget (memo : Memo) (reference : Reference)
    (base : Option String) :
    ∃ stats, (memo.recallTarget reference base).2 = { memo with stats } := by
  simp only [recallTarget, recallReference]
  split
  · split
    · split
      · exact ⟨_, rfl⟩
      · exact ⟨memo.stats, rfl⟩
    · exact ⟨memo.stats, rfl⟩
  · exact ⟨memo.stats, rfl⟩

theorem exists_rememberNode (memo : Memo) (node result : Node) :
    ∃ nodes, memo.rememberNode node result = { memo with nodes } := by
  simp only [rememberNode]
  split
  · split
    · exact ⟨_, rfl⟩
    · exact ⟨memo.nodes, rfl⟩
  · exact ⟨memo.nodes, rfl⟩

theorem exists_rememberTarget (memo : Memo) (reference : Reference)
    (base : Option String) (result : Node) :
    ∃ references, memo.rememberTarget reference base result = { memo with
      references } := by
  simp only [rememberTarget, rememberReference]
  split
  · split
    · exact ⟨_, rfl⟩
    · exact ⟨memo.references, rfl⟩
  · exact ⟨memo.references, rfl⟩

end Memo

theorem Action.on_warnOfSeveral (keywords : Keywords NodeId)
    (followed : ReferenceKind) (state : State) :
    (warnOfSeveral keywords followed).on state.toRun =
      (.ok (), (state.warned keywords followed).toRun) := by
  simp only [warnOfSeveral, State.warned]
  split <;> rfl

theorem Reference.on_circle (setup : Setup) (scope : Scope) (reference : Reference)
    (run : Run) :
    (circle setup scope reference).on run =
      if setup.settings.cyclePolicy.keepsEdges then
        (.ok .kept, { run with
          memo := run.memo.recordEdge (reference.key scope.base) })
      else (.error (.circular reference.target), run) := by
  simp only [circle]
  split <;> rfl

/-- The steps of a reference that is not remembered. -/
theorem Reference.on_pursue_fresh {setup : Setup} {hop : Option Hop} {scope : Scope}
    {reference : Reference} {run : Run}
    (fresh : (run.memo.recallTarget reference scope.base).1 = none) :
    (pursue setup hop scope reference).on run =
      if scope.onPath (reference.key scope.base) then
        (circle setup scope reference).on run
      else
        match hop with
        | none => (.error (.tooDeep setup.settings.maxDepth reference.target), run)
        | some go =>
          if reference.isSelf scope.view then (circle setup scope reference).on run
          else
            match (reference.destination setup scope).on run with
            | (.error error, after) => (.error error, after)
            | (.ok destination, after) =>
              match (go destination.place
                  (scope.descend (reference.key scope.base) destination.root
                    destination.base)).on
                { after with memo := after.memo.recordExpansion } with
              | (.error error, last) => (.error error, last)
              | (.ok result, last) =>
                (.ok (.target result),
                  { last with
                    memo := last.memo.rememberTarget reference
                      scope.base result }) := by
  rw [pursue, Action.on_bind, on_recallTarget, fresh, Memo.recallTarget_fresh fresh]
  dsimp only
  split
  · rfl
  · cases hop with
    | none => rfl
    | some go =>
      rw [Action.on_bind, nextHop, Action.on_pure]
      dsimp only
      split
      · rfl
      · rw [Action.on_bind]
        cases (reference.destination setup scope).on run with
        | mk outcome after =>
          cases outcome with
          | error error => rfl
          | ok destination =>
            dsimp only
            rw [Action.on_bind, expand_eq, Action.on_bind, Action.on_updateMemo]
            dsimp only
            cases (go destination.place
                (scope.descend (reference.key scope.base) destination.root
                  destination.base)).on
                { after with memo := after.memo.recordExpansion } with
            | mk outcome last =>
              cases outcome with
              | error error => rfl
              | ok result => rfl

theorem Answer.node_inj (a b : Node) (h : Answer.node a = .node b) :
    a = b := by injection h

theorem Answer.nodes_inj (a b : List Node) (h : Answer.nodes a = .nodes b) :
    a = b := by injection h

theorem Answer.outcome_inj (a b : Outcome) (h : Answer.outcome a = .outcome b) :
    a = b := by
  injection h

/-- That the code of a task takes one state to another and comes to this answer. -/
def Task.ComesTo (setup : Setup) (hops : Nat) (scope : Scope) (task : Task)
    (state : State) (answer : Except DerefError Answer) (after : State) : Prop :=
  (task.action setup hops scope).on state.toRun = (answer, after.toRun)

namespace Task.ComesTo

variable {setup : Setup} {hops : Nat} {scope : Scope} {state middle after : State}
  {error : DerefError}

/-! ### Lists of schemas -/

section

variable {node head : Node} {nodes tail : List Node}

theorem bool {value : Bool} :
    ComesTo setup hops scope (.node (.bool value)) state (.ok (.node (.bool value)))
      state := by
  rw [ComesTo, action_node, Action.on_map_eq_ok Answer.node_inj, Node.deref_eq]
  rfl

theorem nil : ComesTo setup hops scope (.nodes []) state (.ok (.nodes [])) state := by
  rw [ComesTo, action_nodes, Action.on_map_eq_ok Answer.nodes_inj]
  rfl

theorem headFailed
    (ih : ComesTo setup hops scope (.node node) state (.error error) after) :
    ComesTo setup hops scope (.nodes (node :: nodes)) state (.error error) after := by
  rw [ComesTo, action_node, Action.on_map_eq_error] at ih
  rw [ComesTo, action_nodes, Action.on_map_eq_error, List.mapM_cons, Action.on_bind,
    ← Node.deref_eq, ih]

theorem tailFailed
    (ihhead : ComesTo setup hops scope (.node node) state (.ok (.node head)) middle)
    (ihtail : ComesTo setup hops scope (.nodes nodes) middle (.error error) after) :
    ComesTo setup hops scope (.nodes (node :: nodes)) state (.error error) after := by
  rw [ComesTo, action_node, Action.on_map_eq_ok Answer.node_inj] at ihhead
  rw [ComesTo, action_nodes, Action.on_map_eq_error] at ihtail
  rw [ComesTo, action_nodes, Action.on_map_eq_error, List.mapM_cons, Action.on_bind,
    ← Node.deref_eq, ihhead]
  dsimp only
  rw [Action.on_bind, ihtail]

theorem cons
    (ihhead : ComesTo setup hops scope (.node node) state (.ok (.node head)) middle)
    (ihtail : ComesTo setup hops scope (.nodes nodes) middle
      (.ok (.nodes tail)) after) :
    ComesTo setup hops scope (.nodes (node :: nodes)) state
      (.ok (.nodes (head :: tail))) after := by
  rw [ComesTo, action_node, Action.on_map_eq_ok Answer.node_inj] at ihhead
  rw [ComesTo, action_nodes, Action.on_map_eq_ok Answer.nodes_inj] at ihtail
  rw [ComesTo, action_nodes, Action.on_map_eq_ok Answer.nodes_inj, List.mapM_cons,
    Action.on_bind, ← Node.deref_eq, ihhead]
  dsimp only
  rw [Action.on_bind, ihtail]
  rfl

end

/-! ### Objects -/

section

variable {id : NodeId} {keywords : Keywords NodeId} {outcome : Outcome}
  {results : List Node} {result : Node} {next : NodeId}

theorem recalled
    (hit : (state.memo.recallNode (.object id keywords)).1 = some result) :
    ComesTo setup hops scope (.node (.object id keywords)) state (.ok (.node result))
      (state.lookNode (.object id keywords)) := by
  rw [ComesTo, action_node, Action.on_map_eq_ok Answer.node_inj, Node.deref_eq,
    Schema.derefWith_object, Action.on_bind, Action.on_recallNode, hit]
  rfl

theorem unlinked (fresh : (state.memo.recallNode (.object id keywords)).1 = none)
    (ih : ComesTo setup hops (scope.enter id keywords) (.link keywords) state
      (.error error) after) :
    ComesTo setup hops scope (.node (.object id keywords)) state (.error error)
      after := by
  rw [ComesTo, action_link, Action.on_map_eq_error] at ih
  rw [ComesTo, action_node, Action.on_map_eq_error, Node.deref_eq,
    Schema.derefWith_object, Action.on_bind, Action.on_recallNode, fresh,
    Memo.recallNode_fresh fresh]
  dsimp only
  rw [Action.on_bind, ih]

theorem unfinished (fresh : (state.memo.recallNode (.object id keywords)).1 = none)
    (ihlink : ComesTo setup hops (scope.enter id keywords) (.link keywords) state
      (.ok (.outcome outcome)) middle)
    (ihmembers : ComesTo setup hops (scope.enter id keywords)
      (.nodes (Keywords.applied keywords)) middle (.error error) after) :
    ComesTo setup hops scope (.node (.object id keywords)) state (.error error)
      after := by
  rw [ComesTo, action_link, Action.on_map_eq_ok Answer.outcome_inj] at ihlink
  rw [ComesTo, action_nodes, Action.on_map_eq_error] at ihmembers
  rw [ComesTo, action_node, Action.on_map_eq_error, Node.deref_eq,
    Schema.derefWith_object, Action.on_bind, Action.on_recallNode, fresh,
    Memo.recallNode_fresh fresh]
  dsimp only
  rw [Action.on_bind, ihlink]
  dsimp only
  rw [Action.on_bind, derefKeywords_eq, Action.on_map_eq_error.mpr ihmembers]

theorem concluded {reach : Reach}
    (fresh : (state.memo.recallNode (.object id keywords)).1 = none)
    (conclude : (Action.conclude id keywords
      (Keywords.refill keywords results) outcome).on
      after.toRun = (.ok result, { after.toRun with next }))
    (ihlink : ComesTo setup hops (scope.enter id keywords) (.link keywords) state
      (.ok (.outcome outcome)) middle)
    (ihmembers : ComesTo setup hops (scope.enter id keywords)
      (.nodes (Keywords.applied keywords)) middle (.ok (.nodes results)) after) :
    ComesTo setup hops scope (.node (.object id keywords)) state (.ok (.node result))
      ({ after with next }.noteNode (.object id keywords) result reach) := by
  rw [ComesTo, action_link, Action.on_map_eq_ok Answer.outcome_inj] at ihlink
  rw [ComesTo, action_nodes, Action.on_map_eq_ok Answer.nodes_inj] at ihmembers
  rw [ComesTo, action_node, Action.on_map_eq_ok Answer.node_inj, Node.deref_eq,
    Schema.derefWith_object, Action.on_bind, Action.on_recallNode, fresh,
    Memo.recallNode_fresh fresh]
  dsimp only
  rw [Action.on_bind, ihlink]
  dsimp only
  rw [Action.on_bind, derefKeywords_eq, Action.on_map, ihmembers]
  dsimp only [Except.map]
  rw [Action.on_bind, conclude]
  rfl

end

/-! ### Links -/

section

variable {keywords : Keywords NodeId} {reference : Reference}
  {answer : Except DerefError Answer}

theorem unreferring (none : Keywords.reference? keywords = none) :
    ComesTo setup hops scope (.link keywords) state (.ok (.outcome .kept)) state := by
  rw [ComesTo, action_link, Action.on_map_eq_ok Answer.outcome_inj,
    Action.followIn_eq, none]
  rfl

theorem referring (some : Keywords.reference? keywords = some reference)
    (ih : ComesTo setup hops scope (.reference reference.effective)
      (state.warned keywords reference.kind) answer after) :
    ComesTo setup hops scope (.link keywords) state answer after := by
  rw [ComesTo, action_reference, Action.on_map] at ih
  rw [ComesTo, action_link, Action.on_map, Action.followIn_eq, some]
  dsimp only
  rw [Action.on_bind, Action.on_warnOfSeveral]
  dsimp only
  rw [Reference.follow_eq_pursue]
  exact ih

end

/-! ### References -/

section

variable {reference : Reference} {destination : Destination NodeId} {run : Run}
  {result : Node}

theorem reused
    (hit : (state.memo.recallTarget reference scope.base).1 = some result) :
    ComesTo setup hops scope (.reference reference) state
      (.ok (.outcome (.target result)))
      (state.lookReference reference scope.base) := by
  rw [ComesTo, action_reference, Action.on_map_eq_ok Answer.outcome_inj,
    Reference.pursue, Action.on_bind, Reference.on_recallTarget, hit]
  rfl

/-- A reference that is in flight, or leads to the document it stands in, is a
circle. -/
theorem on_pursue_circular
    (fresh : (state.memo.recallTarget reference scope.base).1 = none)
    (circular : scope.onPath (reference.key scope.base) = true ∨
      0 < hops ∧ reference.isSelf scope.view = true) :
    (reference.pursue setup (setup.hop hops) scope).on state.toRun =
      (reference.circle setup scope).on state.toRun := by
  rw [Reference.on_pursue_fresh fresh]
  rcases circular with honpath | ⟨hhops, hself⟩
  · rw [if_pos honpath]
  · cases hops with
    | zero => omega
    | succ hops =>
      simp only [Setup.hop, hself, if_true]
      exact ite_self _

theorem circled (fresh : (state.memo.recallTarget reference scope.base).1 = none)
    (circular : scope.onPath (reference.key scope.base) = true ∨
      0 < hops ∧ reference.isSelf scope.view = true)
    (keeps : setup.settings.cyclePolicy.keepsEdges = true) :
    ComesTo setup hops scope (.reference reference) state (.ok (.outcome .kept))
      (state.recordEdge (reference.key scope.base)) := by
  rw [ComesTo, action_reference, Action.on_map_eq_ok Answer.outcome_inj,
    on_pursue_circular fresh circular, Reference.on_circle, if_pos keeps]
  rfl

theorem circular (fresh : (state.memo.recallTarget reference scope.base).1 = none)
    (circular : scope.onPath (reference.key scope.base) = true ∨
      0 < hops ∧ reference.isSelf scope.view = true)
    (keeps : setup.settings.cyclePolicy.keepsEdges = false) :
    ComesTo setup hops scope (.reference reference) state
      (.error (.circular reference.target)) state := by
  rw [ComesTo, action_reference, Action.on_map_eq_error,
    on_pursue_circular fresh circular, Reference.on_circle, if_neg (by simp [keeps])]

theorem tooDeep (fresh : (state.memo.recallTarget reference scope.base).1 = none)
    (straight : scope.onPath (reference.key scope.base) = false) :
    ComesTo setup 0 scope (.reference reference) state
      (.error (.tooDeep setup.settings.maxDepth reference.target)) state := by
  rw [ComesTo, action_reference, Action.on_map_eq_error,
    Reference.on_pursue_fresh fresh]
  simp only [straight, Bool.false_eq_true, if_false, Setup.hop]

/-- A reference that is no circle goes to its destination, and with one hop less on
from there. -/
theorem on_pursue_straight
    (fresh : (state.memo.recallTarget reference scope.base).1 = none)
    (straight : scope.view.circles reference = false) :
    (reference.pursue setup (setup.hop (hops + 1)) scope).on state.toRun =
      match (reference.destination setup scope).on state.toRun with
      | (.error error, after) => (.error error, after)
      | (.ok destination, after) =>
        match (Node.deref setup hops destination.place
            (scope.descend (reference.key scope.base) destination.root
              destination.base)).on
          { after with memo := after.memo.recordExpansion } with
        | (.error error, last) => (.error error, last)
        | (.ok result, last) =>
          (.ok (.target result),
            { last with
              memo := last.memo.rememberTarget reference scope.base result }) := by
  simp only [View.circles, Bool.or_eq_false_iff, Scope.view_onPath, Scope.view_base]
    at straight
  rw [Reference.on_pursue_fresh fresh]
  simp only [straight, Bool.false_eq_true, if_false, Setup.hop]

theorem lost (fresh : (state.memo.recallTarget reference scope.base).1 = none)
    (straight : scope.view.circles reference = false)
    (route : reference.Arrives setup scope state.toRun (.error error) run) :
    ComesTo setup (hops + 1) scope (.reference reference) state (.error error)
      ⟨run, state.notes⟩ := by
  rw [ComesTo, action_reference, Action.on_map_eq_error,
    on_pursue_straight fresh straight, route.on_eq]

theorem unexpanded (fresh : (state.memo.recallTarget reference scope.base).1 = none)
    (straight : scope.view.circles reference = false)
    (route : reference.Arrives setup scope state.toRun (.ok destination) run)
    (ih : ComesTo setup hops
      (scope.descend (reference.key scope.base) destination.root destination.base)
      (.node destination.place) (State.recordExpansion ⟨run, state.notes⟩)
      (.error error) after) :
    ComesTo setup (hops + 1) scope (.reference reference) state (.error error)
      after := by
  rw [ComesTo, action_node, Action.on_map_eq_error] at ih
  rw [ComesTo, action_reference, Action.on_map_eq_error,
    on_pursue_straight fresh straight, route.on_eq]
  simp only [State.recordExpansion] at ih
  simp only [ih]

theorem expanded {reach : Reach}
    (fresh : (state.memo.recallTarget reference scope.base).1 = none)
    (straight : scope.view.circles reference = false)
    (route : reference.Arrives setup scope state.toRun (.ok destination) run)
    (ih : ComesTo setup hops
      (scope.descend (reference.key scope.base) destination.root destination.base)
      (.node destination.place) (State.recordExpansion ⟨run, state.notes⟩)
      (.ok (.node result)) after) :
    ComesTo setup (hops + 1) scope (.reference reference) state
      (.ok (.outcome (.target result)))
      (after.noteReference reference scope.base result reach) := by
  rw [ComesTo, action_node, Action.on_map_eq_ok Answer.node_inj] at ih
  rw [ComesTo, action_reference, Action.on_map_eq_ok Answer.outcome_inj,
    on_pursue_straight fresh straight, route.on_eq]
  simp only [State.recordExpansion] at ih
  simp only [ih]
  rfl

end

end Task.ComesTo

variable {setup : Setup} {Fair : Fairness}

/-- A walk comes to what the code comes to: each rule is one path through the code
of its task. -/
theorem Walk.on_eq {hops : Nat} {scope : Scope} {task : Task} {state after : State}
    {answer : Except DerefError Answer} {reach : Reach}
    (walk : Walk setup Fair hops scope task state answer after reach) :
    (task.action setup hops scope).on state.toRun = (answer, after.toRun) := by
  show task.ComesTo setup hops scope state answer after
  induction walk with
  | bool => exact .bool
  | recalled hit => exact .recalled hit
  | unlinked fresh _ ih => exact .unlinked fresh ih
  | unfinished fresh _ _ ihlink ihmembers => exact .unfinished fresh ihlink ihmembers
  | concluded fresh _ _ conclude _ ihlink ihmembers =>
    exact .concluded fresh conclude ihlink ihmembers
  | nil => exact .nil
  | headFailed _ ih => exact .headFailed ih
  | tailFailed _ _ ihhead ihtail => exact .tailFailed ihhead ihtail
  | cons _ _ ihhead ihtail => exact .cons ihhead ihtail
  | unreferring none => exact .unreferring none
  | referring some _ ih => exact .referring some ih
  | reused hit => exact .reused hit
  | circled fresh circular keeps => exact .circled fresh circular keeps
  | circular fresh circular keeps => exact .circular fresh circular keeps
  | tooDeep fresh straight => exact .tooDeep fresh straight
  | lost fresh straight route => exact .lost fresh straight route
  | unexpanded fresh straight route _ ih => exact .unexpanded fresh straight route ih
  | expanded fresh straight route _ ih => exact .expanded fresh straight route ih

end SchemaDeref
