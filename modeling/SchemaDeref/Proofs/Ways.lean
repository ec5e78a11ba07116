import SchemaDeref.Proofs.Growth

/-!
# Ways

What a call comes to on its way through documents, step by step as the code goes: a
task is reached in a scope and a run where the tasks before it end in that run. A
way keeps the objects that were entered and the references that were followed; what
holds where the last reference led, and is handed down from an object to what it
applies, holds of everything reached from there (`Reaches.has`). Every request of a
call is made for a reference that is reached (`exists_lookups`).
-/

namespace SchemaDeref

/-! ## Ways -/

/-- A part of a way. -/
inductive Passage where
  | entered (id : NodeId) (keywords : Keywords NodeId)
  | followed (reference : Reference) (destination : Destination NodeId)

/-- The parts of a way, last first. -/
abbrev Way := List Passage

/-- The last reference of a way that was followed, with its destination. -/
def Way.lastFollowed? : Way → Option (Reference × Destination NodeId)
  | [] => none
  | .entered _ _ :: rest => lastFollowed? rest
  | .followed reference destination :: _ => some (reference, destination)

/-! ## What is reached -/

section

variable (setup : Setup) (session : Session) (schema : Node)

/-- `Reaches setup session schema way hops scope task run`: in the call for the
schema, the code comes to the task on this way, with so many hops left, in this
scope and with this run. -/
inductive Reaches : Way → Nat → Scope → Task → Run → Prop
  | start :
    Reaches [] setup.settings.maxDepth (.start schema none) (.node schema)
      (setup.begin session schema).toRun
  | entered {way hops scope id keywords run}
    (node : Reaches way hops scope (.node (.object id keywords)) run)
    (fresh : (run.memo.recallNode (.object id keywords)).1 = none) :
    Reaches (.entered id keywords :: way) hops (scope.enter id keywords)
      (.link keywords) run
  | applied {way hops scope keywords run outcome after}
    (link : Reaches way hops scope (.link keywords) run)
    (followed : (Action.followIn setup (setup.hop hops) scope keywords).on run =
      (.ok outcome, after)) :
    Reaches way hops scope (.nodes (Keywords.applied keywords)) after
  | first {way hops scope node rest run}
    (nodes : Reaches way hops scope (.nodes (node :: rest)) run) :
    Reaches way hops scope (.node node) run
  | next {way hops scope node rest run result after}
    (nodes : Reaches way hops scope (.nodes (node :: rest)) run)
    (dereferenced : (Node.deref setup hops node scope).on run = (.ok result, after)) :
    Reaches way hops scope (.nodes rest) after
  | referring {way hops scope keywords run reference}
    (link : Reaches way hops scope (.link keywords) run)
    (some : Keywords.reference? keywords = some reference) :
    Reaches way hops scope (.reference reference.effective)
      ((Action.warnOfSeveral keywords reference.kind).on run).2
  | followed {way hops scope reference run destination after}
    (referring : Reaches way (hops + 1) scope (.reference reference) run)
    (fresh : (run.memo.recallTarget reference scope.base).1 = none)
    (straight : scope.view.circles reference = false)
    (arrived : (reference.destination setup scope).on run =
      (.ok destination, after)) :
    Reaches (.followed reference destination :: way) hops
      (scope.descend (reference.key scope.base) destination.root destination.base)
      (.node destination.place) { after with memo := after.memo.recordExpansion }

/-- A reference that is reached and goes to its destination: there is a hop left for
it, no result of it is remembered, and it is not circular. -/
structure Follows (way : Way) (hops : Nat) (scope : Scope) (reference : Reference)
    (run : Run) :
    Prop where
  reached : Reaches setup session schema way (hops + 1) scope (.reference reference)
    run
  fresh : (run.memo.recallTarget reference scope.base).1 = none
  straight : scope.view.circles reference = false

/-- A name under which a reference with a document of its own is looked up. -/
def LooksUp (way : Way) (name : String) : Prop :=
  ∃ hops scope reference run uri, Follows setup session schema way hops scope
    reference run ∧
    reference.parts.uri = some uri ∧ name = Uri.joinName scope.base uri

end

variable {setup : Setup} {session : Session} {schema : Node}

theorem Reference.parts_effective (reference : Reference) :
    reference.effective.parts = reference.parts := by
  rw [effective]
  split <;> rfl

theorem Reference.effective_eq_self {reference : Reference}
    (h : reference.parts.uri = none) :
    reference.effective = reference := by
  simp [effective, h]

/-! ## What is handed down -/

/-- A property of places, by the document and the base they are read in. -/
abbrev Situation := Node → Option String → Node → Prop

/-- That an object hands a property down to what it applies. -/
def Situation.Inherited (P : Situation) : Prop :=
  ∀ ⦃root base id keywords⦄, P root base (.object id keywords) →
    ∀ s ∈ Keywords.applied keywords, P root (Keywords.baseWithin base keywords) s

/-- That a property holds of what a task is about. A link and a reference are about
the object entered last. -/
inductive Task.Has (P : Situation) : Way → Scope → Task → Prop
  | node {way scope node} (holds : P scope.root scope.base node) :
    Has P way scope (.node node)
  | nodes {way scope nodes} (holds : ∀ node ∈ nodes, P scope.root scope.base node) :
    Has P way scope (.nodes nodes)
  | link {way scope base id keywords}
    (holds : P scope.root base (.object id keywords))
    (base_eq : scope.base = Keywords.baseWithin base keywords) :
    Has P (.entered id keywords :: way) scope (.link keywords)
  | reference {way scope base id keywords reference}
    (holds : P scope.root base (.object id keywords))
    (base_eq : scope.base = Keywords.baseWithin base keywords)
    (some : Keywords.reference? keywords = some reference) :
    Has P (.entered id keywords :: way) scope (.reference reference.effective)

theorem Scope.enter_root (scope : Scope) (id : NodeId) (keywords : Keywords NodeId) :
    (scope.enter id keywords).root = scope.root := by
  simp only [enter]
  split <;> split <;> rfl

theorem Scope.enter_base (scope : Scope) (id : NodeId) (keywords : Keywords NodeId) :
    (scope.enter id keywords).base = Keywords.baseWithin scope.base keywords := by
  simp only [enter]
  split <;> split <;> rfl

/-- What is handed down from objects to what they apply holds of all that is
reached, if it holds where the last reference led, or of the whole schema as long as
none was followed. -/
theorem Reaches.has {P : Situation} (hinherited : P.Inherited) {way : Way}
    {hops : Nat} {scope : Scope} {task : Task} {run : Run}
    (reaches : Reaches setup session schema way hops scope task run)
    (hstart : way.lastFollowed? = none → P schema none schema)
    (hfollowed : ∀ reference destination, way.lastFollowed? =
      some (reference, destination) →
      P destination.root destination.base destination.place) :
    task.Has P way scope := by
  induction reaches with
  | start => exact .node (hstart rfl)
  | @entered way hops scope id keywords run node fresh ih =>
    obtain ⟨holds⟩ := ih hstart hfollowed
    rw [← scope.enter_root id keywords] at holds
    exact .link holds (scope.enter_base id keywords)
  | applied link followed ih =>
    cases ih hstart hfollowed with
    | link holds base_eq => exact .nodes fun s hs => base_eq ▸ hinherited holds s hs
  | first nodes ih =>
    cases ih hstart hfollowed with
    | nodes holds => exact .node (holds _ List.mem_cons_self)
  | next nodes dereferenced ih =>
    cases ih hstart hfollowed with
    | nodes holds => exact .nodes fun s hs => holds s (List.mem_cons_of_mem _ hs)
  | referring link some ih =>
    cases ih hstart hfollowed with
    | link holds base_eq => exact .reference holds base_eq some
  | followed referring fresh straight arrived ih => exact .node (hfollowed _ _ rfl)

/-! ## Requests -/

theorem World.asked_fetch (loader : Loader) (name target : String) (world : World) :
    (world.fetch loader name target).2.asked = world.asked ∨
      (world.fetch loader name target).2.asked = world.asked ++ [name] := by
  simp only [World.fetch]
  split
  · exact .inl rfl
  · split <;> exact .inr rfl

/-- On the way to a destination the loader is asked for the document of the
reference at most. -/
theorem View.asked_destination (loader : Loader) (view : View) (reference : Reference)
    (world : World) :
    (view.destination loader reference world).2.asked = world.asked ∨
      ∃ uri, reference.parts.uri = some uri ∧
        (view.destination loader reference world).2.asked =
          world.asked ++ [Uri.joinName view.base uri] := by
  simp only [View.destination]
  split
  · exact .inl rfl
  · rename_i uri huri
    have hfetch :=
      World.asked_fetch loader (Uri.joinName view.base uri) reference.target world
    split
    all_goals
      rename_i heq
      rw [heq] at hfetch
      exact hfetch.imp_right fun h => ⟨uri, huri, h⟩

/-- That between two states the loader is asked for names only that are looked up in
the call. -/
def State.AsksWhatIsLookedUp (setup : Setup) (session : Session) (schema : Node)
    (before after : State) : Prop :=
  ∃ names, after.asked = before.asked ++ names ∧
    ∀ name ∈ names, ∃ way, LooksUp setup session schema way name

namespace State.AsksWhatIsLookedUp

theorem of_eq {before after : State} (h : after.asked = before.asked) :
    AsksWhatIsLookedUp setup session schema before after :=
  ⟨[], by rw [h, List.append_nil], fun _ hname => absurd hname List.not_mem_nil⟩

theorem trans {a b c : State} (hab : AsksWhatIsLookedUp setup session schema a b)
    (hbc : AsksWhatIsLookedUp setup session schema b c) :
    AsksWhatIsLookedUp setup session schema a c := by
  obtain ⟨names, hnames, hall⟩ := hab
  obtain ⟨more, hmore, hall'⟩ := hbc
  refine ⟨names ++ more,
    by rw [hmore, hnames, List.append_assoc], fun name hname => ?_⟩
  exact (List.mem_append.mp hname).elim (hall name) (hall' name)

/-- The way to the destination of a reference that is reached. -/
theorem of_route {way : Way} {hops : Nat} {scope : Scope} {reference : Reference}
    {state : State} {outcome : Except DerefError (Destination NodeId)} {run : Run}
    (follows : Follows setup session schema way hops scope reference state.toRun)
    (route : reference.Arrives setup scope state.toRun outcome run) :
    AsksWhatIsLookedUp setup session schema state ⟨run, state.notes⟩ := by
  have hasked := scope.view.asked_destination setup.loader reference state.toRun.world
  rw [route.erase_eq] at hasked
  rcases hasked with hasked | ⟨uri, huri, hasked⟩
  · exact of_eq hasked
  · refine ⟨[Uri.joinName scope.base uri], hasked, fun name hname => ?_⟩
    exact ⟨way, _, _, _, _, uri, follows, huri, List.mem_singleton.mp hname⟩

end State.AsksWhatIsLookedUp

/-- What holds between two states that differ at most in what is remembered, in the
warnings and in the counts, behind every destination of a reference that is reached,
behind every reference that is reached and circular, and where a result is noted,
holds between the states before and after a walk. -/
theorem Walk.throughout {P : State → State → Prop}
    (same : ∀ {before after : State}, after.asked = before.asked →
      after.memo.edges = before.memo.edges → after.notes = before.notes →
        P before after)
    (trans : ∀ {a b c : State}, P a b → P b c → P a c)
    (arrives : ∀ {way hops scope reference state outcome run},
      Follows setup session schema way hops scope reference state.toRun →
      reference.Arrives setup scope state.toRun outcome run →
        P state ⟨run, state.notes⟩)
    (circles : ∀ {way hops scope reference state},
      Reaches setup session schema way hops scope (.reference reference) state.toRun →
      scope.view.circles reference = true →
        P state (state.recordEdge (reference.key scope.base)))
    (concludes : ∀ {way hops scope id keywords run outcome linked result
      last state reach},
      Reaches setup session schema way hops scope (.node (.object id keywords)) run →
      (run.memo.recallNode (.object id keywords)).1 = none →
      (Action.followIn setup (setup.hop hops) (scope.enter id keywords) keywords).on
        run =
        (.ok outcome, linked) →
      (Node.deref setup hops (.object id keywords) scope).on run =
        (.ok result, last) →
      P state (state.noteNode (.object id keywords) result reach))
    (expands : ∀ {reference base result state reach},
      P state (state.noteReference reference base result reach))
    {Fair : Fairness} {hops : Nat} {scope : Scope} {task : Task} {state after : State}
    {result : Except DerefError Answer} {reach : Reach}
    (walk : Walk setup Fair hops scope task state result after reach) :
    ∀ way, Reaches setup session schema way hops scope task state.toRun →
      P state after := by
  induction walk with
  | bool | nil | unreferring | circular | tooDeep => exact fun _ _ => same rfl rfl rfl
  | recalled => exact fun _ _ => same rfl (Memo.edges_recallNode ..) rfl
  | reused => exact fun _ _ => same rfl (Memo.edges_recallTarget ..) rfl
  | circled _ circular _ =>
    exact fun _ reached => circles reached (View.circles_of_circular circular)
  | unlinked fresh _ ih => exact fun way node => ih _ (.entered node fresh)
  | unfinished fresh linking _ ihlink ihmembers =>
    intro way node
    have link := node.entered fresh
    have hlink := Walk.on_eq linking
    rw [Task.action_link, Action.on_map_eq_ok Answer.outcome_inj] at hlink
    exact trans (ihlink _ link) (ihmembers _ (link.applied hlink))
  | @concluded _ _ id keywords _ _ _ _ after _ next _ _ fresh linking members
    conclude erase ihlink
      ihmembers =>
    intro way node
    have link := node.entered fresh
    have hlink := Walk.on_eq linking
    rw [Task.action_link, Action.on_map_eq_ok Answer.outcome_inj] at hlink
    have hnode := Walk.on_eq (.concluded fresh linking members conclude erase)
    rw [Task.action_node, Action.on_map_eq_ok Answer.node_inj] at hnode
    have hnext : P after { after with next } := same rfl rfl rfl
    exact trans
      (trans (trans (ihlink _ link) (ihmembers _ (link.applied hlink))) hnext)
      (concludes node fresh hlink hnode)
  | headFailed _ ih => exact fun way nodes => ih _ nodes.first
  | tailFailed head _ ihhead ihtail =>
    intro way nodes
    have hhead := Walk.on_eq head
    rw [Task.action_node, Action.on_map_eq_ok Answer.node_inj] at hhead
    exact trans (ihhead _ nodes.first) (ihtail _ (nodes.next hhead))
  | cons head _ ihhead ihtail =>
    intro way nodes
    have hhead := Walk.on_eq head
    rw [Task.action_node, Action.on_map_eq_ok Answer.node_inj] at hhead
    exact trans (ihhead _ nodes.first) (ihtail _ (nodes.next hhead))
  | @referring _ _ keywords state reference _ _ _ some _ ih =>
    intro way link
    have hreferring := link.referring some
    rw [Action.on_warnOfSeveral] at hreferring
    have hwarned : P state (state.warned keywords reference.kind) := same rfl rfl rfl
    exact trans hwarned (ih _ hreferring)
  | lost fresh straight route =>
    exact fun way reached => arrives ⟨reached, fresh, straight⟩ route
  | @unexpanded _ _ _ state _ run _ _ _ fresh straight route _ ih =>
    intro way reached
    have hcounted : P ⟨run, state.notes⟩ (State.recordExpansion ⟨run, state.notes⟩) :=
      same rfl rfl rfl
    exact trans (trans (arrives ⟨reached, fresh, straight⟩ route) hcounted)
      (ih _ (reached.followed fresh straight route.on_eq))
  | @expanded _ scope reference state _ run result after _ fresh straight
    route _ ih =>
    intro way reached
    have hcounted : P ⟨run, state.notes⟩ (State.recordExpansion ⟨run, state.notes⟩) :=
      same rfl rfl rfl
    have hexpanded :=
      trans (trans (arrives ⟨reached, fresh, straight⟩ route) hcounted)
      (ih _ (reached.followed fresh straight route.on_eq))
    exact trans hexpanded expands

/-- What holds between two states where nothing is asked for and no key recorded,
behind every destination of a reference that is reached, and behind every reference
that is reached and circular, holds between the states before and after a walk. -/
theorem Walk.along {P : State → State → Prop}
    (same : ∀ {before after : State}, after.asked = before.asked →
      after.memo.edges = before.memo.edges → P before after)
    (trans : ∀ {a b c : State}, P a b → P b c → P a c)
    (arrives : ∀ {way hops scope reference state outcome run},
      Follows setup session schema way hops scope reference state.toRun →
      reference.Arrives setup scope state.toRun outcome run →
        P state ⟨run, state.notes⟩)
    (circles : ∀ {way hops scope reference state},
      Reaches setup session schema way hops scope (.reference reference) state.toRun →
      scope.view.circles reference = true →
        P state (state.recordEdge (reference.key scope.base)))
    {Fair : Fairness} {hops : Nat} {scope : Scope} {task : Task} {state after : State}
    {result : Except DerefError Answer} {reach : Reach}
    (walk : Walk setup Fair hops scope task state result after reach) :
    ∀ way, Reaches setup session schema way hops scope task state.toRun →
      P state after :=
  walk.throughout (fun hasked hedges _ => same hasked hedges) trans arrives circles
    (fun _ _ _ _ => same rfl (Memo.edges_rememberNode ..))
    (same rfl (Memo.edges_rememberTarget ..))

open State.AsksWhatIsLookedUp in
theorem Walk.asksWhatIsLookedUp {Fair : Fairness} {hops : Nat} {scope : Scope}
    {task : Task} {state after : State} {result : Except DerefError Answer}
    {reach : Reach}
    (walk : Walk setup Fair hops scope task state result after reach) :
    ∀ way, Reaches setup session schema way hops scope task state.toRun →
      State.AsksWhatIsLookedUp setup session schema state after :=
  walk.along (fun hasked _ => of_eq hasked) trans of_route fun _ _ => of_eq rfl

/-- Every name the loader is asked for in a call is looked up on some way. -/
theorem exists_lookups (setup : Setup) {session : Session} {schemas : List Node}
    {schema : Node} (h : session.Holds schemas) (hschema : schema ∈ schemas) :
    ∃ names, (dereference setup session schema).session.asked = session.asked ++
      names ∧
      ∀ name ∈ names, ∃ way, LooksUp setup session schema way name := by
  obtain ⟨result, after, reach, walk, _⟩ := exists_callWalk setup h hschema
  rw [walk.dereference_eq]
  exact Walk.asksWhatIsLookedUp walk [] .start

end SchemaDeref
