import SchemaDeref.Proofs.Walk

/-!
# Every call is a walk

From a laid state there is a walk for every task (`exists_walk_node`), and it leaves
a laid state behind. Here, and only here, identities matter: a result remembered
under an identity is a result of the node that has it, and an object given back as
unchanged is what its keywords came to.
-/

namespace SchemaDeref

/-! ## Laid states -/

/-- What a memo holds is laid, and there is a note on it. -/
structure Memo.Noted (layout : Layout) (notes : List Note) (memo : Memo) : Prop where
  nodes : ∀ entry ∈ memo.nodes, entry.2.Laid layout ∧ entry.1 < layout.next ∧
    ∃ note ∈ notes, note.mark = .node (.object entry.1 (layout.keywords entry.1)) ∧
      note.result = entry.2
  references : ∀ entry ∈ memo.references, entry.2.Laid layout ∧
    ∃ note ∈ notes, note.mark = .reference entry.1.1 entry.1.2 ∧ note.result = entry.2

structure State.Laid (layout : Layout) (state : State) : Prop where
  session : state.toSession.Laid layout
  memo : state.memo.Noted layout state.notes

namespace Memo

theorem mem_nodes_of_recallNode {memo : Memo} {id : NodeId}
    {keywords : Keywords NodeId} {result : Node}
    (h : (memo.recallNode (.object id keywords)).1 = some result) :
    (id, result) ∈ memo.nodes := by
  simp only [recallNode, Schema.mark?, Option.bind_eq_bind, Option.bind_some] at h
  split at h
  · split at h
    · rename_i found hlookup
      cases h
      obtain ⟨front, back, heq, _⟩ := List.lookup_eq_some_iff.mp hlookup
      exact heq ▸ List.mem_append_right _ List.mem_cons_self
    · cases h
  · cases h

theorem mem_references_of_recallTarget {memo : Memo} {reference : Reference}
    {base : Option String} {result : Node}
    (h : (memo.recallTarget reference base).1 = some result) :
    reference.kind = .static ∧
      ((base.getD "", reference.target), result) ∈ memo.references := by
  simp only [recallTarget] at h
  split at h
  · rename_i hkind
    refine ⟨hkind, ?_⟩
    simp only [recallReference] at h
    split at h
    · split at h
      · rename_i found hlookup
        cases h
        obtain ⟨front, back, heq, _⟩ := List.lookup_eq_some_iff.mp hlookup
        exact heq ▸ List.mem_append_right _ List.mem_cons_self
      · cases h
    · cases h
  · cases h

variable {layout : Layout} {notes : List Note} {memo : Memo}

theorem Noted.mono {later : Layout} (h : memo.Noted layout notes)
    (ext : layout.Extends later) :
    memo.Noted later notes where
  nodes entry hentry := by
    obtain ⟨hlaid, hlt, note, hnote, hmark, hresult⟩ := h.nodes entry hentry
    refine ⟨hlaid.mono ext, Nat.lt_of_lt_of_le hlt ext.next_le, note,
      hnote, ?_, hresult⟩
    rw [hmark, ext.keywords_eq _ hlt]
  references entry hentry := by
    obtain ⟨hlaid, hnote⟩ := h.references entry hentry
    exact ⟨hlaid.mono ext, hnote⟩

/-- Counting and looking leave what a memo holds as it is. -/
theorem Noted.congr {other : Memo} (h : memo.Noted layout notes)
    (hnodes : other.nodes = memo.nodes)
    (hreferences : other.references = memo.references) :
    other.Noted layout notes where
  nodes := hnodes ▸ h.nodes
  references := hreferences ▸ h.references

theorem Noted.cons (h : memo.Noted layout notes) (note : Note) :
    memo.Noted layout (note :: notes) where
  nodes entry hentry := by
    obtain ⟨hlaid, hlt, old, hold, heq⟩ := h.nodes entry hentry
    exact ⟨hlaid, hlt, old, List.mem_cons_of_mem _ hold, heq⟩
  references entry hentry := by
    obtain ⟨hlaid, old, hold, heq⟩ := h.references entry hentry
    exact ⟨hlaid, old, List.mem_cons_of_mem _ hold, heq⟩

theorem Noted.recallNode (h : memo.Noted layout notes) (node : Node) :
    (memo.recallNode node).2.Noted layout notes := by
  obtain ⟨stats, heq⟩ := memo.exists_recallNode node
  rw [heq]
  exact h.congr rfl rfl

theorem Noted.recallTarget (h : memo.Noted layout notes) (reference : Reference)
    (base : Option String) :
    (memo.recallTarget reference base).2.Noted layout notes := by
  obtain ⟨stats, heq⟩ := memo.exists_recallTarget reference base
  rw [heq]
  exact h.congr rfl rfl

theorem Noted.rememberNode (h : memo.Noted layout notes) {id : NodeId}
    {keywords : Keywords NodeId} {result : Node}
    (hnode : Schema.Laid layout (.object id keywords))
    (hresult : result.Laid layout) (reach : Reach) :
    (memo.rememberNode (.object id keywords) result).Noted layout
      (⟨.node (.object id keywords), result, reach⟩ :: notes) := by
  have hold := h.cons ⟨.node (.object id keywords), result, reach⟩
  obtain ⟨⟨hlt, hkeywords⟩, _⟩ := Schema.Laid.object_iff.mp hnode
  simp only [Memo.rememberNode, Schema.mark?]
  split
  · refine ⟨List.forall_mem_cons.mpr ⟨?_, hold.nodes⟩, hold.references⟩
    exact ⟨hresult, hlt, _, List.mem_cons_self, by rw [hkeywords], rfl⟩
  · exact hold

theorem Noted.rememberTarget (h : memo.Noted layout notes) {reference : Reference}
    {base : Option String} {result : Node} (hresult : result.Laid layout)
    (reach : Reach) :
    (memo.rememberTarget reference base result).Noted layout
      (if reference.kind = .static then
        ⟨.reference (base.getD "") reference.target, result, reach⟩ :: notes
      else notes) := by
  simp only [Memo.rememberTarget]
  split
  · have hold := h.cons ⟨.reference (base.getD "") reference.target, result, reach⟩
    simp only [Memo.rememberReference]
    split
    · refine ⟨hold.nodes, List.forall_mem_cons.mpr ⟨?_, hold.references⟩⟩
      exact ⟨hresult, _, List.mem_cons_self, rfl, rfl⟩
    · exact hold
  · exact h

end Memo

/-! ## Conclusions -/

namespace Action

variable {layout : Layout} {run : Run}

/-- What is known of the step that concludes an object. -/
def Concludes (layout : Layout) (run : Run) (action : Action Node)
    (document : Document) : Prop :=
  ∃ (result : Node) (next : NodeId) (later : Layout), action.on run =
    (.ok result, { run with next }) ∧
    result.erase = document ∧ layout.Extends later ∧
    Session.Laid later { run.toSession with next } ∧ result.Laid later

theorem concludes_pure (hrun : run.toSession.Laid layout) {node : Node}
    (h : node.Laid layout) :
    Concludes layout run (pure node) node.erase :=
  ⟨node, run.next, layout, rfl, rfl, .refl layout, hrun, h⟩

theorem concludes_newObject (hrun : run.toSession.Laid layout)
    {keywords : Keywords NodeId} (h : Keywords.Laid layout keywords) :
    Concludes layout run (newObject keywords)
      (.object () (eraseEntries keywords)) := by
  have hext := layout.extends_push keywords
  have hnew := Layout.laid_push h
  rw [hrun.next_eq] at hnew
  refine ⟨_, run.next + 1, layout.push keywords, rfl, Schema.erase_object _ _,
    hext, ?_, hnew⟩
  exact ⟨congrArg (· + 1) hrun.next_eq, fun entry hentry =>
    (hrun.catalog entry hentry).mono hext⟩

/-- An object is concluded as its document says, and what comes of it is laid. -/
theorem concludes_conclude (hrun : run.toSession.Laid layout) {id : NodeId}
    {keywords : Keywords NodeId} {results : List Node} {outcome : Outcome}
    (hnode : Schema.Laid layout (.object id keywords))
    (hresults : ∀ result ∈ results, result.Laid layout)
    (houtcome : ∀ target, outcome = .target target → target.Laid layout) :
    Concludes layout run
      (conclude id keywords (Keywords.refill keywords results) outcome)
      (Document.concluded (Keywords.refill (eraseEntries keywords)
        (results.map Schema.erase))
        outcome.erase) := by
  have hkeywords := (Schema.Laid.object_iff.mp hnode).2
  have hmembers := hkeywords.refill hresults
  rw [← Keywords.erase_refill]
  cases outcome with
  | kept =>
    simp only [conclude, rebuild, Outcome.erase, Document.concluded]
    split
    · rename_i hsame
      rw [Keywords.refill_eq_of_areSame hkeywords hresults hsame,
        ← Schema.erase_object id keywords]
      exact concludes_pure hrun hnode
    · exact concludes_newObject hrun hmembers
  | target target =>
    have htarget := houtcome target rfl
    simp only [conclude, layOver, Outcome.erase, Document.concluded, Schema.overlaid,
      Keywords.siblings_erase, Keywords.isEmpty_erase]
    split
    · exact concludes_pure hrun htarget
    · cases target with
      | bool value =>
        cases value with
        | false =>
          have := concludes_pure hrun htarget
          simpa using this
        | true =>
          simp only [Schema.erase_bool]
          exact concludes_newObject hrun hmembers.siblings
      | object mark others =>
        simp only [Schema.erase_object, ← Members.overwrite_erase]
        exact concludes_newObject hrun
          ((Schema.Laid.object_iff.mp htarget).2.overwrite hmembers.siblings)

end Action

/-! ## Existence -/

/-- Whether an answer is one to a task. -/
def Task.Fits : Task → Answer → Prop
  | .node _, .node _ => True
  | .nodes ns, .nodes results => results.length = ns.length
  | .link _, .outcome _ => True
  | .reference _, .outcome _ => True
  | _, _ => False

theorem Walk.fits {setup : Setup} {Fair : Fairness} {hops : Nat} {scope : Scope}
    {task : Task} {state after : State} {result : Except DerefError Answer}
    {reach : Reach}
    (walk : Walk setup Fair hops scope task state result after reach) :
    ∀ answer, result = .ok answer → task.Fits answer := by
  induction walk with
  | bool | recalled | concluded | nil | unreferring | reused | circled | expanded =>
    rintro answer ⟨⟩
    trivial
  | unlinked | unfinished | headFailed | tailFailed | circular | tooDeep | lost
  | unexpanded =>
    rintro answer ⟨⟩
  | cons head tail ihhead ihtail =>
    rintro answer ⟨⟩
    exact congrArg (· + 1) (ihtail _ rfl)
  | referring some follow ih =>
    intro answer hanswer
    have hfits := ih answer hanswer
    cases answer <;> simp [Task.Fits] at hfits ⊢

def Task.Laid (layout : Layout) : Task → Prop
  | .node n => n.Laid layout
  | .nodes ns => ∀ n ∈ ns, n.Laid layout
  | .link _ | .reference _ => True

def Answer.Laid (layout : Layout) : Answer → Prop
  | .node n => n.Laid layout
  | .nodes ns => ∀ n ∈ ns, n.Laid layout
  | .outcome (.target n) => n.Laid layout
  | .outcome .kept => True

/-- A walk that asks nothing of the notes. -/
abbrev FreeWalk (setup : Setup) := Walk setup fun _ _ _ => True

/-- From every laid state there is a walk for a task, and it leaves a laid state. -/
def Walks (setup : Setup) (hops : Nat) (task : Task) : Prop :=
  ∀ (layout : Layout) (scope : Scope) (state : State), scope.Laid layout →
    task.Laid layout →
    state.Laid layout → ∃ result after reach later,
      FreeWalk setup hops scope task state result after reach ∧ layout.Extends later ∧
        after.Laid later ∧ ∀ answer, result = .ok answer → answer.Laid later

variable {setup : Setup}

/-- A circular reference. -/
theorem exists_walk_circle {layout : Layout} {hops : Nat} {scope : Scope}
    {reference : Reference} {state : State} (hstate : state.Laid layout)
    (fresh : (state.memo.recallTarget reference scope.base).1 = none)
    (circular : scope.onPath (reference.key scope.base) = true ∨
      0 < hops ∧ reference.isSelf scope.view = true) :
    ∃ result after reach later,
      FreeWalk setup hops scope (.reference reference) state result after reach ∧
        layout.Extends later ∧ after.Laid later ∧ ∀ answer, result = .ok answer →
          answer.Laid later := by
  cases hkeeps : setup.settings.cyclePolicy.keepsEdges with
  | true =>
    refine ⟨_, _, _, layout, .circled fresh circular hkeeps, .refl layout, ?_, ?_⟩
    · exact ⟨hstate.session, hstate.memo.congr rfl rfl⟩
    · rintro answer ⟨⟩
      trivial
  | false =>
    refine ⟨_, _, _, layout, .circular fresh circular hkeeps,
      .refl layout, hstate, ?_⟩
    rintro answer ⟨⟩

theorem walks_reference {hops : Nat}
    (target : ∀ less node, hops = less + 1 → Walks setup less (.node node))
    (reference : Reference) :
    Walks setup hops (.reference reference) := by
  intro layout scope state hscope _ hstate
  cases hit : (state.memo.recallTarget reference scope.base).1 with
  | some result =>
    obtain ⟨hstatic, hmem⟩ := Memo.mem_references_of_recallTarget hit
    obtain ⟨hlaid, note, hnote, hmark, rfl⟩ := hstate.memo.references _ hmem
    refine ⟨_, _, _, layout, .reused hit hstatic hnote hmark trivial,
      .refl layout, ?_, ?_⟩
    · exact ⟨hstate.session, hstate.memo.recallTarget reference scope.base⟩
    · rintro answer ⟨⟩
      exact hlaid
  | none =>
    cases honpath : scope.onPath (reference.key scope.base) with
    | true => exact exists_walk_circle hstate hit (.inl honpath)
    | false =>
      cases hops with
      | zero =>
        refine ⟨_, _, _, layout, .tooDeep hit honpath, .refl layout, hstate, ?_⟩
        rintro answer ⟨⟩
      | succ less =>
        cases hself : reference.isSelf scope.view with
        | true =>
          exact exists_walk_circle hstate hit (.inr ⟨Nat.succ_pos less, hself⟩)
        | false =>
          have hstraight : scope.view.circles reference = false := by
            simp only [View.circles, Scope.view_onPath, Scope.view_base, honpath,
              hself, Bool.or_false]
          obtain ⟨outcome, run, route, middle, hext, hrun, hdestination⟩ :=
            reference.exists_arrives setup hscope hstate.session (by simp [hself])
          have hmemo : run.memo.Noted middle state.notes :=
            (hstate.memo.mono hext).congr
              (by rw [route.memo_eq]) (by rw [route.memo_eq])
          cases outcome with
          | error error =>
            refine ⟨_, _, _, middle, .lost hit hstraight route, hext,
              ⟨hrun, hmemo⟩, ?_⟩
            rintro answer ⟨⟩
          | ok destination =>
            obtain ⟨hplace, hroot⟩ := hdestination destination rfl
            obtain ⟨result, after, reach, later, walk, hext', hafter, hanswer⟩ :=
              target less destination.place rfl middle
                (scope.descend (reference.key scope.base) destination.root
                  destination.base)
                (State.recordExpansion ⟨run, state.notes⟩)
                  ((hscope.mono hext).descend hroot _ _)
                hplace ⟨hrun, hmemo.congr rfl rfl⟩
            cases result with
            | error error =>
              refine ⟨_, _, _, later, .unexpanded hit hstraight route walk,
                hext.trans hext', hafter, ?_⟩
              rintro answer ⟨⟩
            | ok answer =>
              have hfits := walk.fits answer rfl
              cases answer with
              | node result =>
                have hresult : result.Laid later := hanswer _ rfl
                refine ⟨_, _, _, later, .expanded hit hstraight route walk,
                  hext.trans hext', ?_, ?_⟩
                · exact ⟨hafter.session, hafter.memo.rememberTarget hresult _⟩
                · rintro answer ⟨⟩
                  exact hresult
              | nodes _ | outcome _ => exact hfits.elim

theorem walks_link {hops : Nat}
    (reference : ∀ reference, Walks setup hops (.reference reference))
    (keywords : Keywords NodeId) : Walks setup hops (.link keywords) := by
  intro layout scope state hscope _ hstate
  cases hreference : Keywords.reference? keywords with
  | none =>
    refine ⟨_, _, _, layout, .unreferring hreference, .refl layout, hstate, ?_⟩
    rintro answer ⟨⟩
    trivial
  | some r =>
    obtain ⟨result, after, reach, later, walk, h⟩ :=
      reference r.effective layout scope
      (state.warned keywords r.kind) hscope trivial ⟨hstate.session, hstate.memo⟩
    exact ⟨result, after, reach, later, .referring hreference walk, h⟩

theorem walks_nodes {hops : Nat} {nodes : List Node}
    (node : ∀ n ∈ nodes, Walks setup hops (.node n)) :
    Walks setup hops (.nodes nodes) := by
  induction nodes with
  | nil =>
    intro layout scope state hscope _ hstate
    refine ⟨_, _, _, layout, .nil, .refl layout, hstate, ?_⟩
    rintro answer ⟨⟩
    exact fun n hn => absurd hn List.not_mem_nil
  | cons first rest ih =>
    intro layout scope state hscope htask hstate
    obtain ⟨result, middle, reach, between, head, hext, hmiddle, hresult⟩ :=
      node first List.mem_cons_self layout scope state hscope
        (htask first List.mem_cons_self) hstate
    cases result with
    | error error =>
      refine ⟨_, _, _, between, .headFailed head, hext, hmiddle, ?_⟩
      rintro answer ⟨⟩
    | ok answer =>
      have hfits := head.fits answer rfl
      cases answer with
      | node new =>
        obtain ⟨results, after, reach', later, tail, hext', hafter, hresults⟩ :=
          ih (fun n hn => node n (List.mem_cons_of_mem _ hn)) between scope middle
            (hscope.mono hext)
            (fun n hn => (htask n (List.mem_cons_of_mem _ hn)).mono hext) hmiddle
        cases results with
        | error error =>
          refine ⟨_, _, _, later, .tailFailed head tail, hext.trans hext', hafter, ?_⟩
          rintro answer ⟨⟩
        | ok answer =>
          have hfits := tail.fits answer rfl
          cases answer with
          | nodes news =>
            refine ⟨_, _, _, later, .cons head tail, hext.trans hext', hafter, ?_⟩
            rintro answer ⟨⟩
            have hnew : new.Laid between := hresult _ rfl
            exact List.forall_mem_cons.mpr ⟨hnew.mono hext', hresults _ rfl⟩
          | node _ | outcome _ => exact hfits.elim
      | nodes _ | outcome _ => exact hfits.elim

theorem walks_object {hops : Nat}
    (link : ∀ keywords, Walks setup hops (.link keywords)) {id : NodeId}
    {keywords : Keywords NodeId}
    (members : Walks setup hops (.nodes (Keywords.applied keywords))) :
    Walks setup hops (.node (.object id keywords)) := by
  intro layout scope state hscope hnode hstate
  cases hit : (state.memo.recallNode (.object id keywords)).1 with
  | some result =>
    obtain ⟨hlaid, _, note, hnote, hmark, rfl⟩ :=
      hstate.memo.nodes _ (Memo.mem_nodes_of_recallNode hit)
    -- the identity stands for these keywords and no others, so the note is on this
    -- very node
    rw [(Schema.Laid.object_iff.mp hnode).1.2] at hmark
    refine ⟨_, _, _, layout, .recalled hit hnote hmark trivial, .refl layout, ?_, ?_⟩
    · exact ⟨hstate.session, hstate.memo.recallNode _⟩
    · rintro answer ⟨⟩
      exact hlaid
  | none =>
    have hinner := hscope.enter hnode
    obtain ⟨result, middle, reach, between, linking, hext, hmiddle, houtcome⟩ :=
      link keywords layout (scope.enter id keywords) state hinner trivial hstate
    cases result with
    | error error =>
      refine ⟨_, _, _, between, .unlinked hit linking, hext, hmiddle, ?_⟩
      rintro answer ⟨⟩
    | ok answer =>
      have hfits := linking.fits answer rfl
      cases answer with
      | outcome outcome =>
        obtain ⟨results, after, reach', later, applying, hext', hafter, hresults⟩ :=
          members between (scope.enter id keywords) middle (hinner.mono hext)
            (fun n hn => (Schema.Laid.of_mem_applied hnode hn).mono hext) hmiddle
        cases results with
        | error error =>
          refine ⟨_, _, _, later, .unfinished hit linking applying,
            hext.trans hext', hafter, ?_⟩
          rintro answer ⟨⟩
        | ok answer =>
          have hfits := applying.fits answer rfl
          cases answer with
          | nodes results =>
            have hlater := (hext.trans hext')
            have htarget : ∀ target, outcome = .target target →
                target.Laid later := by
              rintro target rfl
              exact (houtcome _ rfl : target.Laid between).mono hext'
            obtain ⟨new, next, last, hconclude, herase, hext'', hsession, hnew⟩ :=
              Action.concludes_conclude hafter.session (hnode.mono hlater)
                (hresults _ rfl) htarget
            refine ⟨_, _, _, last, .concluded hit linking applying hconclude herase,
              hlater.trans hext'', ⟨hsession, ?_⟩, ?_⟩
            · exact (hafter.memo.mono hext'').rememberNode
                (hnode.mono (hlater.trans hext'')) hnew _
            · rintro answer ⟨⟩
              exact hnew
          | node _ | outcome _ => exact hfits.elim
      | node _ | nodes _ => exact hfits.elim

theorem walks_bool {hops : Nat} (value : Bool) :
    Walks setup hops (.node (.bool value)) := by
  intro layout scope state _ hnode hstate
  refine ⟨_, _, _, layout, .bool, .refl layout, hstate, ?_⟩
  rintro answer ⟨⟩
  exact hnode

theorem walks_node (setup : Setup) (hops : Nat) :
    ∀ node, Walks setup hops (.node node) := by
  -- on the hops first: a target may be any node at all, but it has one hop less
  induction hops with
  | zero =>
    have hlink : ∀ keywords, Walks setup 0 (.link keywords) :=
      walks_link (walks_reference (by omega))
    exact Schema.appliedInduction walks_bool
      fun id keywords ih => walks_object hlink (walks_nodes ih)
  | succ hops ihhops =>
    have hlink : ∀ keywords, Walks setup (hops + 1) (.link keywords) := by
      refine walks_link (walks_reference ?_)
      intro less node hless
      rw [← Nat.succ.inj hless]
      exact ihhops node
    exact Schema.appliedInduction walks_bool
      fun id keywords ih => walks_object hlink (walks_nodes ih)

/-! ## Calls -/

/-- The state in which a call begins to walk. -/
def Setup.begin (setup : Setup) (session : Session) (schema : Node) : State where
  catalog := session.catalog.register schema none
  asked := session.asked
  next := session.next
  memo := .empty setup.settings.useCache
  warnings := []
  notes := []

theorem Setup.laid_begin (setup : Setup) {layout : Layout} {session : Session}
    {schema : Node} (hsession : session.Laid layout) (hschema : schema.Laid layout) :
    (setup.begin session schema).Laid layout where
  session := ⟨hsession.next_eq,
    Session.Laid.mem_register hsession.catalog hschema none⟩
  memo := by constructor <;> simp [Setup.begin, Memo.empty]

/-- The walk a call makes: the whole schema, from its root. -/
def CallWalk (setup : Setup) (Fair : Fairness) (session : Session) (schema : Node)
    (result : Except DerefError Node) (after : State) (reach : Reach) : Prop :=
  Walk setup Fair setup.settings.maxDepth (.start schema none) (.node schema)
    (setup.begin session schema) (result.map .node) after reach

/-- What a call leaves behind is what dereferencing its schema from the root comes
to. -/
theorem dereference_eq_of_on {session : Session} {schema : Node}
    {result : Except DerefError Node} {after : Run}
    (h : (Node.deref setup setup.settings.maxDepth schema (.start schema none)).on
      (setup.begin session schema).toRun = (result, after)) :
    dereference setup session schema =
      ⟨result.map fun node => ⟨node, after.memo.edges, after.memo.stats⟩,
        after.toSession,
        after.warnings⟩ := by
  have hroot : (Node.derefRoot setup schema).on
      { session with memo := .empty setup.settings.useCache, warnings := [] } =
        (result.map fun node => ⟨node, after.memo.edges, after.memo.stats⟩,
          after) := by
    rw [Node.derefRoot_eq, Action.on_bind, Action.on_register]
    simp only [Setup.begin] at h
    dsimp only
    rw [Action.on_bind, h]
    cases result <;> rfl
  simp only [Action.on] at hroot
  simp only [dereference, hroot]

/-- What a call leaves behind is what its walk comes to. -/
theorem CallWalk.dereference_eq {Fair : Fairness} {session : Session}
    {schema : Node} {result : Except DerefError Node} {after : State} {reach : Reach}
    (walk : CallWalk setup Fair session schema result after reach) :
    dereference setup session schema =
      ⟨result.map fun node => ⟨node, after.memo.edges, after.memo.stats⟩,
        after.toSession,
        after.warnings⟩ := by
  have hcode := Walk.on_eq walk
  rw [Task.action_node] at hcode
  refine dereference_eq_of_on ?_
  cases result with
  | error error => exact Action.on_map_eq_error.mp hcode
  | ok node => exact (Action.on_map_eq_ok Answer.node_inj).mp hcode

/-- A session in which these schemas stand, too: whatever an identity occurs in, it
stands for one object there. Sessions come to be by marking documents, registering
and dereferencing, and all of these keep it so. -/
def Session.Holds (session : Session) (schemas : List Node) : Prop :=
  ∃ layout : Layout, session.Laid layout ∧ ∀ schema ∈ schemas, schema.Laid layout

/-- Every call is a walk. -/
theorem exists_callWalk (setup : Setup) {session : Session} {schemas : List Node}
    {schema : Node} (h : session.Holds schemas) (hschema : schema ∈ schemas) :
    ∃ result after reach, CallWalk setup (fun _ _ _ => True) session schema result
      after reach ∧
      after.toSession.Holds schemas ∧
      ∀ node, result = .ok node → after.toSession.Holds (node :: schemas) := by
  obtain ⟨layout, hsession, hschemas⟩ := h
  have hlaid := hschemas schema hschema
  obtain ⟨outcome, after, reach, later, walk, hext, hafter, hanswer⟩ :=
    walks_node setup setup.settings.maxDepth schema layout (.start schema none)
      (setup.begin session schema) (Scope.Laid.start hlaid none) hlaid
      (setup.laid_begin hsession hlaid)
  have hlater : ∀ s ∈ schemas, s.Laid later := fun s hs => (hschemas s hs).mono hext
  cases outcome with
  | error error =>
    refine ⟨.error error, after, reach, walk, ⟨later, hafter.session, hlater⟩, ?_⟩
    rintro node ⟨⟩
  | ok answer =>
    have hfits := walk.fits answer rfl
    cases answer with
    | node result =>
      refine ⟨.ok result, after, reach, walk, ⟨later, hafter.session, hlater⟩, ?_⟩
      rintro node ⟨⟩
      exact ⟨later, hafter.session, List.forall_mem_cons.mpr ⟨hanswer _ rfl, hlater⟩⟩
    | nodes _ | outcome _ => exact hfits.elim

namespace Session

theorem holds_empty : Session.empty.Holds [] :=
  ⟨⟨fun _ => [], 0⟩, ⟨rfl, by simp [Session.empty, Catalog.empty]⟩, by simp⟩

namespace Holds

variable {session : Session} {schemas : List Node}

theorem mint {ι : Type} (h : session.Holds schemas) (document : Schema ι) :
    (session.mint document).2.Holds ((session.mint document).1 :: schemas) := by
  obtain ⟨layout, hsession, hschemas⟩ := h
  obtain ⟨after, hext, hafter, hnew⟩ := hsession.exists_mint document
  exact ⟨after, hafter,
    List.forall_mem_cons.mpr ⟨hnew, fun s hs => (hschemas s hs).mono hext⟩⟩

theorem register (h : session.Holds schemas) {schema : Node}
    (hschema : schema ∈ schemas) (uri : Option String) :
    Session.Holds { session with catalog := session.catalog.register schema uri }
      schemas := by
  obtain ⟨layout, hsession, hschemas⟩ := h
  exact ⟨layout, ⟨hsession.next_eq,
    Session.Laid.mem_register hsession.catalog (hschemas schema hschema) uri⟩,
    hschemas⟩

theorem add (h : session.Holds schemas) {schema : Node} (hschema : schema ∈ schemas)
    (uri : String) :
    Session.Holds { session with catalog := session.catalog.add uri schema }
      schemas := by
  obtain ⟨layout, hsession, hschemas⟩ := h
  refine ⟨layout, ⟨hsession.next_eq, fun entry hentry => ?_⟩, hschemas⟩
  rcases Catalog.mem_add hentry with heq | hentry
  · exact heq ▸ hschemas schema hschema
  · exact hsession.catalog entry hentry

theorem dereference (h : session.Holds schemas) (setup : Setup) {schema : Node}
    (hschema : schema ∈ schemas) :
    (dereference setup session schema).session.Holds schemas := by
  obtain ⟨result, after, reach, walk, hafter, _⟩ := exists_callWalk setup h hschema
  rw [walk.dereference_eq]
  exact hafter

end Holds

end Session

end SchemaDeref
