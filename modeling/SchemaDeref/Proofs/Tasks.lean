import SchemaDeref.Proofs.Ways

/-!
# What tasks come to

The ways the code of a task can go, down to the tasks inside it: there is one for
every branch of the code, failures included, and none besides (`Task.goes`). Nothing
is asked of the session, and nothing is noted on the way. What is shown for these
ways one by one holds of all tasks by an induction on the hops and the nodes
(`Task.induction`).
-/

namespace SchemaDeref

/-! ## Steps that always go one way -/

/-- Concluding an object does not fail, and makes one new object at most. -/
theorem Action.exists_conclude (id : NodeId) (keywords members : Keywords NodeId)
    (outcome : Outcome) (run : Run) :
    ∃ result next, (conclude id keywords members outcome).on run =
      (.ok result, { run with next }) := by
  cases outcome with
  | kept =>
    simp only [conclude, rebuild]
    split
    · exact ⟨_, run.next, rfl⟩
    · exact ⟨_, _, rfl⟩
  | target target =>
    simp only [conclude, layOver]
    split
    · exact ⟨_, run.next, rfl⟩
    · split
      · exact ⟨_, run.next, rfl⟩
      · exact ⟨_, _, rfl⟩
      · exact ⟨_, _, rfl⟩

/-- Warning of several references does not fail, and only warns. -/
theorem Action.exists_warnOfSeveral (keywords : Keywords NodeId)
    (followed : ReferenceKind) (run : Run) :
    ∃ warnings, (warnOfSeveral keywords followed).on run =
      (.ok (), { run with warnings }) := by
  simp only [warnOfSeveral]
  split
  · exact ⟨_, rfl⟩
  · exact ⟨run.warnings, rfl⟩

/-- The key of a reference that is not circular is not that of one in flight. -/
theorem Scope.key_not_mem_path {scope : Scope} {reference : Reference}
    (straight : scope.view.circles reference = false) :
    reference.key scope.base ∉ scope.path := by
  rw [View.circles, Bool.or_eq_false_iff, Scope.view_onPath, Scope.onPath] at straight
  exact fun hmem =>
    absurd (List.contains_iff_mem.mpr hmem) (Bool.eq_false_iff.mp straight.1)

/-! ## The ways -/

/-- `Goes setup hops scope task run result after`: in one of the ways there are, the
task comes to the result and leaves a run behind. -/
inductive Task.Goes (setup : Setup) :
    Nat → Scope → Task → Run → Except DerefError Answer → Run → Prop
  | bool {hops scope value run} :
    Goes setup hops scope (.node (.bool value)) run (.ok (.node (.bool value))) run
  | recalled {hops scope id keywords run result}
    (hit : (run.memo.recallNode (.object id keywords)).1 = some result) :
    Goes setup hops scope (.node (.object id keywords)) run (.ok (.node result))
      { run with memo := (run.memo.recallNode (.object id keywords)).2 }
  | unlinked {hops scope id keywords run error after}
    (fresh : (run.memo.recallNode (.object id keywords)).1 = none)
    (link : ((Task.link keywords).action setup hops (scope.enter id keywords)).on
      run =
      (.error error, after)) :
    Goes setup hops scope (.node (.object id keywords)) run (.error error) after
  | unfinished {hops scope id keywords run outcome linked error after}
    (fresh : (run.memo.recallNode (.object id keywords)).1 = none)
    (link : ((Task.link keywords).action setup hops (scope.enter id keywords)).on
      run =
      (.ok (.outcome outcome), linked))
    (members : ((Task.nodes (Keywords.applied keywords)).action setup hops
      (scope.enter id keywords)).on linked = (.error error, after)) :
    Goes setup hops scope (.node (.object id keywords)) run (.error error) after
  | concluded {hops scope id keywords run outcome linked results applied result next}
    (fresh : (run.memo.recallNode (.object id keywords)).1 = none)
    (link : ((Task.link keywords).action setup hops (scope.enter id keywords)).on
      run =
      (.ok (.outcome outcome), linked))
    (members : ((Task.nodes (Keywords.applied keywords)).action setup hops
      (scope.enter id keywords)).on linked = (.ok (.nodes results), applied)) :
    Goes setup hops scope (.node (.object id keywords)) run (.ok (.node result))
      { applied with
        next, memo := applied.memo.rememberNode (.object id keywords) result }
  | nil {hops scope run} : Goes setup hops scope (.nodes []) run (.ok (.nodes [])) run
  | headFailed {hops scope node rest run error after}
    (head : ((Task.node node).action setup hops scope).on run =
      (.error error, after)) :
    Goes setup hops scope (.nodes (node :: rest)) run (.error error) after
  | tailFailed {hops scope node rest run result middle error after}
    (head : ((Task.node node).action setup hops scope).on run =
      (.ok (.node result), middle))
    (tail : ((Task.nodes rest).action setup hops scope).on middle =
      (.error error, after)) :
    Goes setup hops scope (.nodes (node :: rest)) run (.error error) after
  | cons {hops scope node rest run result middle results after}
    (head : ((Task.node node).action setup hops scope).on run =
      (.ok (.node result), middle))
    (tail : ((Task.nodes rest).action setup hops scope).on middle =
      (.ok (.nodes results), after)) :
    Goes setup hops scope (.nodes (node :: rest)) run
      (.ok (.nodes (result :: results))) after
  | unreferring {hops scope keywords run}
    (none : Keywords.reference? keywords = none) :
    Goes setup hops scope (.link keywords) run (.ok (.outcome .kept)) run
  | referring {hops scope keywords run reference result after}
    (some : Keywords.reference? keywords = some reference)
    (follow : ((Task.reference reference.effective).action setup hops scope).on
      ((Action.warnOfSeveral keywords reference.kind).on run).2 = (result, after)) :
    Goes setup hops scope (.link keywords) run result after
  | reused {hops scope reference run result}
    (hit : (run.memo.recallTarget reference scope.base).1 = some result) :
    Goes setup hops scope (.reference reference) run (.ok (.outcome (.target result)))
      { run with memo := (run.memo.recallTarget reference scope.base).2 }
  | circled {hops scope reference run}
    (fresh : (run.memo.recallTarget reference scope.base).1 = none)
    (circles : scope.view.circles reference = true) :
    Goes setup hops scope (.reference reference) run (.ok (.outcome .kept))
      { run with memo := run.memo.recordEdge (reference.key scope.base) }
  | circular {hops scope reference run}
    (fresh : (run.memo.recallTarget reference scope.base).1 = none)
    (circles : scope.view.circles reference = true) :
    Goes setup hops scope (.reference reference) run
      (.error (.circular reference.target)) run
  | tooDeep {scope reference run}
    (fresh : (run.memo.recallTarget reference scope.base).1 = none)
    (straight : scope.onPath (reference.key scope.base) = false) :
    Goes setup 0 scope (.reference reference) run
      (.error (.tooDeep setup.settings.maxDepth reference.target)) run
  | lost {hops scope reference run error after}
    (fresh : (run.memo.recallTarget reference scope.base).1 = none)
    (straight : scope.view.circles reference = false)
    (route : (reference.destination setup scope).on run = (.error error, after)) :
    Goes setup (hops + 1) scope (.reference reference) run (.error error) after
  | unexpanded {hops scope reference run destination arrived error after}
    (fresh : (run.memo.recallTarget reference scope.base).1 = none)
    (straight : scope.view.circles reference = false)
    (route : (reference.destination setup scope).on run = (.ok destination, arrived))
    (target : ((Task.node destination.place).action setup hops
      (scope.descend (reference.key scope.base) destination.root destination.base)).on
        { arrived with memo := arrived.memo.recordExpansion } =
          (.error error, after)) :
    Goes setup (hops + 1) scope (.reference reference) run (.error error) after
  | expanded {hops scope reference run destination arrived result after}
    (fresh : (run.memo.recallTarget reference scope.base).1 = none)
    (straight : scope.view.circles reference = false)
    (route : (reference.destination setup scope).on run = (.ok destination, arrived))
    (target : ((Task.node destination.place).action setup hops
      (scope.descend (reference.key scope.base) destination.root destination.base)).on
        { arrived with memo := arrived.memo.recordExpansion } =
          (.ok (.node result), after)) :
    Goes setup (hops + 1) scope (.reference reference) run
      (.ok (.outcome (.target result)))
      { after with memo := after.memo.rememberTarget reference scope.base result }

/-- What a mapped step comes to is what the step comes to. -/
theorem Action.on_map_of {α β : Type} (f : α → β) {action : Action α}
    {run after : Run} {result : Except DerefError α}
    (h : action.on run = (result, after)) :
    (f <$> action).on run = (result.map f, after) := by
  rw [on_map, h]

/-- A mapped step succeeds if the step does. -/
theorem Action.exists_of_on_map {α β : Type} {f : α → β} {action : Action α}
    {run after : Run} {b : β} (h : (f <$> action).on run = (.ok b, after)) :
    ∃ a, action.on run = (.ok a, after) ∧ f a = b := by
  rw [map_eq_pure_bind] at h
  obtain ⟨a, middle, hon, hpure⟩ := on_bind_eq_ok.mp h
  cases hpure
  exact ⟨a, hon, rfl⟩

section

variable (setup : Setup) (hops : Nat) (scope : Scope)

theorem Task.exists_goes_node (node : Node) (run : Run) :
    ∃ result after, ((Task.node node).action setup hops scope).on run =
      (result, after) ∧
      Goes setup hops scope (.node node) run result after := by
  rw [Task.action_node, Node.deref_eq]
  cases node with
  | bool value => exact ⟨_, _, rfl, .bool⟩
  | object id keywords =>
    rw [Schema.derefWith_object, Action.on_map, Action.on_bind, Action.on_recallNode]
    cases hit : (run.memo.recallNode (.object id keywords)).1 with
    | some result => exact ⟨_, _, rfl, .recalled hit⟩
    | none =>
      rw [Memo.recallNode_fresh hit]
      dsimp only
      rw [Action.on_bind]
      cases link : (Action.followIn setup (setup.hop hops) (scope.enter id keywords)
          keywords).on run with
      | mk outcome linked =>
        have hlink := Action.on_map_of Answer.outcome link
        cases outcome with
        | error error => exact ⟨_, _, rfl, .unlinked hit hlink⟩
        | ok outcome =>
          dsimp only
          rw [Action.on_bind, derefKeywords_eq, Action.on_map]
          cases members :
            ((Keywords.applied keywords).mapM (Schema.derefWith setup (setup.hop hops)
              (scope.enter id keywords))).on linked with
          | mk results applied =>
            have hmembers := Action.on_map_of Answer.nodes members
            cases results with
            | error error => exact ⟨_, _, rfl, .unfinished hit hlink hmembers⟩
            | ok results =>
              obtain ⟨result, next, conclude⟩ := Action.exists_conclude id keywords
                (Keywords.refill keywords results) outcome applied
              dsimp only [Except.map]
              rw [Action.on_bind, conclude]
              exact ⟨_, _, rfl, .concluded hit hlink hmembers⟩

theorem Task.exists_goes_nodes (nodes : List Node) (run : Run) :
    ∃ result after, ((Task.nodes nodes).action setup hops scope).on run =
      (result, after) ∧
      Goes setup hops scope (.nodes nodes) run result after := by
  cases nodes with
  | nil => exact ⟨_, _, rfl, .nil⟩
  | cons node rest =>
    rw [Task.action_nodes, Action.on_map, List.mapM_cons, Action.on_bind,
      ← Node.deref_eq]
    cases head : (Node.deref setup hops node scope).on run with
    | mk result middle =>
      have hhead := Action.on_map_of Answer.node head
      cases result with
      | error error => exact ⟨_, _, rfl, .headFailed hhead⟩
      | ok result =>
        dsimp only
        rw [Action.on_bind]
        cases tail : (rest.mapM (Schema.derefWith setup (setup.hop hops) scope)).on
          middle with
        | mk results after =>
          have htail := Action.on_map_of Answer.nodes tail
          cases results with
          | error error => exact ⟨_, _, rfl, .tailFailed hhead htail⟩
          | ok results => exact ⟨_, _, rfl, .cons hhead htail⟩

theorem Task.exists_goes_link (keywords : Keywords NodeId) (run : Run) :
    ∃ result after, ((Task.link keywords).action setup hops scope).on run =
      (result, after) ∧
      Goes setup hops scope (.link keywords) run result after := by
  rw [Task.action_link, Action.followIn_eq]
  cases hreference : Keywords.reference? keywords with
  | none => exact ⟨_, _, rfl, .unreferring hreference⟩
  | some reference =>
    obtain ⟨warnings, hwarn⟩ :=
      Action.exists_warnOfSeveral keywords reference.kind run
    dsimp only
    rw [Action.on_map, Action.on_bind, hwarn, Reference.follow_eq_pursue]
    refine ⟨_, _, rfl, .referring hreference ?_⟩
    rw [hwarn, Task.action_reference, Action.on_map]

theorem Task.exists_goes_circle {reference : Reference} {run : Run}
    (fresh : (run.memo.recallTarget reference scope.base).1 = none)
    (circles : scope.view.circles reference = true) :
    ∃ result after, (Reference.circle setup scope reference).on run =
      (result, after) ∧
      Goes setup hops scope (.reference reference) run (result.map .outcome)
        after := by
  rw [Reference.on_circle]
  split
  · exact ⟨_, _, rfl, .circled fresh circles⟩
  · exact ⟨_, _, rfl, .circular fresh circles⟩

theorem Task.exists_goes_reference (reference : Reference) (run : Run) :
    ∃ result after, ((Task.reference reference).action setup hops scope).on run =
      (result, after) ∧
      Goes setup hops scope (.reference reference) run result after := by
  rw [Task.action_reference, Action.on_map]
  cases hit : (run.memo.recallTarget reference scope.base).1 with
  | some result =>
    refine ⟨_, _, rfl, ?_⟩
    rw [Reference.pursue, Action.on_bind, Reference.on_recallTarget, hit]
    exact .reused hit
  | none =>
    rw [Reference.on_pursue_fresh hit]
    cases honpath : scope.onPath (reference.key scope.base) with
    | true =>
      have circles : scope.view.circles reference = true := by
        rw [View.circles, Scope.view_onPath, Scope.view_base, honpath, Bool.true_or]
      obtain ⟨result, after, heq, hgoes⟩ :=
        exists_goes_circle setup hops scope hit circles
      rw [if_pos rfl, heq]
      exact ⟨_, _, rfl, hgoes⟩
    | false =>
      rw [if_neg Bool.false_ne_true]
      cases hops with
      | zero => exact ⟨_, _, rfl, .tooDeep hit honpath⟩
      | succ less =>
        dsimp only [Setup.hop]
        cases hself : reference.isSelf scope.view with
        | true =>
          have circles := View.circles_of_circular (.inr ⟨Nat.succ_pos less, hself⟩)
          obtain ⟨result, after, heq, hgoes⟩ :=
            exists_goes_circle setup (less + 1) scope hit circles
          rw [if_pos rfl, heq]
          exact ⟨_, _, rfl, hgoes⟩
        | false =>
          have straight : scope.view.circles reference = false := by
            simp only [View.circles, Scope.view_onPath, Scope.view_base, honpath,
              hself, Bool.or_false]
          rw [if_neg Bool.false_ne_true]
          cases route : (reference.destination setup scope).on run with
          | mk outcome arrived =>
            cases outcome with
            | error error => exact ⟨_, _, rfl, .lost hit straight route⟩
            | ok destination =>
              dsimp only
              cases target : (Node.deref setup less destination.place
                  (scope.descend (reference.key scope.base) destination.root
                    destination.base)).on
                    { arrived with memo := arrived.memo.recordExpansion } with
              | mk result after =>
                have htarget := Action.on_map_of Answer.node target
                cases result with
                | error error =>
                  exact ⟨_, _, rfl, .unexpanded hit straight route htarget⟩
                | ok result => exact ⟨_, _, rfl, .expanded hit straight route htarget⟩

end

/-- The code of a task goes one of the ways. -/
theorem Task.goes {setup : Setup} {hops : Nat} {scope : Scope} {task : Task}
    {run after : Run} {result : Except DerefError Answer}
    (h : (task.action setup hops scope).on run = (result, after)) :
    task.Goes setup hops scope run result after := by
  obtain ⟨result', after', heq, hgoes⟩ : ∃ result' after',
      (task.action setup hops scope).on run = (result', after') ∧
        task.Goes setup hops scope run result' after' := by
    cases task with
    | node node => exact exists_goes_node setup hops scope node run
    | nodes nodes => exact exists_goes_nodes setup hops scope nodes run
    | link keywords => exact exists_goes_link setup hops scope keywords run
    | reference reference =>
      exact exists_goes_reference setup hops scope reference run
  cases h.symm.trans heq
  exact hgoes

/-! ## Induction -/

/-- What holds of a task whenever it holds of the tasks inside it, and of references
whenever it holds of nodes with one hop less, holds of every task. -/
theorem Task.induction {P : Nat → Task → Prop}
    (bool : ∀ hops value, P hops (.node (.bool value)))
    (object : ∀ hops id keywords, P hops (.link keywords) →
      P hops (.nodes (Keywords.applied keywords)) →
      P hops (.node (.object id keywords)))
    (nil : ∀ hops, P hops (.nodes []))
    (cons : ∀ hops node rest, P hops (.node node) → P hops (.nodes rest) →
      P hops (.nodes (node :: rest)))
    (link : ∀ hops keywords, (∀ reference, P hops (.reference reference)) →
      P hops (.link keywords))
    (reference : ∀ hops reference,
      (∀ less node, hops = less + 1 → P less (.node node)) →
      P hops (.reference reference)) :
    ∀ hops task, P hops task := by
  intro hops
  induction hops using Nat.strongRecOn with
  | ind hops ih =>
    have hreference : ∀ r, P hops (.reference r) := fun r =>
      reference hops r fun less node heq => ih less (by omega) (.node node)
    have hnodes : ∀ nodes : List Node, (∀ n ∈ nodes, P hops (.node n)) →
        P hops (.nodes nodes) := by
      intro nodes h
      induction nodes with
      | nil => exact nil hops
      | cons first rest ihrest =>
        exact cons hops first rest (h first List.mem_cons_self)
          (ihrest fun n hn => h n (List.mem_cons_of_mem _ hn))
    have hnode : ∀ node, P hops (.node node) := Schema.appliedInduction (bool hops)
      fun id keywords happlied =>
        object hops id keywords (link hops keywords hreference)
        (hnodes _ happlied)
    intro task
    cases task with
    | node node => exact hnode node
    | nodes nodes => exact hnodes nodes fun n _ => hnode n
    | link keywords => exact link hops keywords hreference
    | reference r => exact hreference r

end SchemaDeref
