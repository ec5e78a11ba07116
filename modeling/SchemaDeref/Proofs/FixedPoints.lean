import SchemaDeref.Proofs.Refilling
import SchemaDeref.Proofs.Survivors

/-!
# Fixed points

A schema without references where it is applied comes back as the very node it is,
whatever the setup and the session. A call for it only looks: it asks for nothing,
expands nothing and records no key (`Idles`). What comes out of a call under the
policy `error` is such a schema.
-/

namespace SchemaDeref

variable {ι : Type}

/-! ## Schemas without references -/

/-- No object that is applied, at any depth, has a reference. Definitions and plain
data may. -/
def Schema.ReferenceFree (s : Schema ι) : Prop :=
  ∀ mark keywords, s.Applies (.object mark keywords) →
    Keywords.reference? keywords = none

namespace Schema.ReferenceFree

theorem bool (value : Bool) : ReferenceFree (.bool value : Schema ι) := by
  rintro mark keywords ⟨⟩

theorem object_iff {mark : ι} {keywords : Keywords ι} :
    ReferenceFree (.object mark keywords) ↔
      Keywords.reference? keywords = none ∧ ∀ s ∈ Keywords.applied keywords,
        s.ReferenceFree := by
  constructor
  · intro h
    exact ⟨h mark keywords (.refl _), fun s hs m k happlies => h m k
      (.under hs happlies)⟩
  · rintro ⟨hself, hmembers⟩ m k happlies
    cases happlies with
    | refl => exact hself
    | under mem happlies => exact hmembers _ mem m k happlies

end Schema.ReferenceFree

/-! ## What counts as the same -/

theorem Schema.isSameNode_refl (node : Node) : node.isSameNode node = true := by
  cases node with
  | bool value => exact beq_self_eq_true value
  | object id keywords => exact beq_self_eq_true id

theorem Schema.isSameNode_of_mark? {node : Node} {id : NodeId}
    (h : node.mark? = some id) (keywords : Keywords NodeId) :
    node.isSameNode (.object id keywords) = true := by
  cases node with
  | bool value => cases h
  | object mark others =>
    cases h
    exact beq_self_eq_true id

/-- The nodes of two lists count as the same, one by one. -/
abbrev AreSameNodes : List Node → List Node → Prop :=
  List.Forall₂ fun old new => new.isSameNode old = true

theorem areSameEntries_of_related {olds news : List (String × Keyword NodeId)}
    (h : AreRelatedEntries (fun old new => new.isSame old = true) olds news) :
    areSameEntries news olds = true := by
  induction h with
  | nil => rfl
  | cons hfirst _ ih =>
    rw [areSameEntries, hfirst.2, ih]
    rfl

theorem handsUp_isSame :
    HandsUp (fun old new : Node => new.isSameNode old = true)
      (fun old new => new.isSame old = true) where
  schema h := h
  list h := by
    rw [Keyword.isSame]
    induction h with
    | nil => rfl
    | cons hfirst _ ih =>
      rw [areSameItems, hfirst, ih]
      rfl
  map h := by
    rw [Keyword.isSame]
    exact areSameEntries_of_related h
  value _ := rfl

/-- Keywords refilled with nodes that count as the same count as the same: no
unchanged child is taken for a changed one. -/
theorem Keywords.areSame_refill (keywords : Keywords NodeId) (news : List Node)
    (h : AreSameNodes (applied keywords) news) :
    areSameEntries (refill keywords news) keywords = true :=
  areSameEntries_of_related
    (Keywords.related_refill handsUp_isSame Schema.isSameNode_refl keywords news h)

/-! ## Idle steps -/

/-- That a memo remembers of each node that node itself. -/
def Memo.Faithful (memo : Memo) : Prop :=
  ∀ entry ∈ memo.nodes, entry.2.mark? = some entry.1

/-- That between two memos nodes were recalled and remembered, each as itself, and
nothing else was done. -/
structure Memo.Idle (before after : Memo) : Prop where
  faithful : after.Faithful
  edges : after.edges = before.edges
  expansions : after.stats.expansions = before.stats.expansions
  referenceHits : after.stats.referenceHits = before.stats.referenceHits

namespace Memo

variable {memo : Memo}

theorem faithful_empty (enabled : Bool) : (empty enabled).Faithful :=
  fun _ h => absurd h List.not_mem_nil

namespace Idle

theorem refl (h : memo.Faithful) : memo.Idle memo := ⟨h, rfl, rfl, rfl⟩

theorem trans {a b c : Memo} (hab : a.Idle b) (hbc : b.Idle c) : a.Idle c where
  faithful := hbc.faithful
  edges := hbc.edges.trans hab.edges
  expansions := hbc.expansions.trans hab.expansions
  referenceHits := hbc.referenceHits.trans hab.referenceHits

theorem recallNode (h : memo.Faithful) (node : Node) :
    memo.Idle (memo.recallNode node).2 := by
  simp only [Memo.recallNode]
  split
  · split
    · exact ⟨h, rfl, rfl, rfl⟩
    · exact refl h
  · exact refl h

theorem rememberNode (h : memo.Faithful) (id : NodeId) (keywords : Keywords NodeId) :
    memo.Idle (memo.rememberNode (.object id keywords) (.object id keywords)) := by
  simp only [Memo.rememberNode, Schema.mark?]
  split
  · exact ⟨List.forall_mem_cons.mpr ⟨rfl, h⟩, rfl, rfl, rfl⟩
  · exact refl h

end Idle

end Memo

/-- Where each node is remembered as itself, a step comes to what counts as the same
as the node, and is idle; a node that is not remembered comes to itself. -/
def Action.Returns (action : Action Node) (node : Node) : Prop :=
  ∀ run : Run, run.memo.Faithful → ∃ result memo,
    action.on run = (.ok result, { run with memo }) ∧ run.memo.Idle memo ∧
    result.isSameNode node = true ∧
      ((run.memo.recallNode node).1 = none → result = node)

theorem Action.on_mapM_returns {f : Node → Action Node} {nodes : List Node}
    (h : ∀ node ∈ nodes, (f node).Returns node) (run : Run)
    (hrun : run.memo.Faithful) :
    ∃ results memo, (nodes.mapM f).on run = (.ok results, { run with memo }) ∧
      run.memo.Idle memo ∧ AreSameNodes nodes results := by
  induction nodes generalizing run with
  | nil => exact ⟨[], run.memo, rfl, .refl hrun, .nil⟩
  | cons node rest ih =>
    obtain ⟨hfirst, hrest⟩ := List.forall_mem_cons.mp h
    obtain ⟨result, middle, hon, hmiddle, hsame, _⟩ := hfirst run hrun
    obtain ⟨results, memo, hons, hmemo, hsames⟩ :=
      ih hrest { run with memo := middle } hmiddle.faithful
    refine ⟨result :: results, memo, ?_, hmiddle.trans hmemo, .cons hsame hsames⟩
    rw [List.mapM_cons, on_bind, hon]
    dsimp only
    rw [on_bind, hons]
    rfl

/-- A node without references is given back, whether or not a hop is left. -/
theorem Schema.derefWith_returns (setup : Setup) (hop : Option Hop) : ∀ node : Node,
    node.ReferenceFree → ∀ scope, (node.derefWith setup hop scope).Returns node := by
  intro node
  induction node using Schema.appliedInduction with
  | bool value =>
    intro _ scope run hrun
    exact ⟨.bool value, run.memo, rfl, .refl hrun, beq_self_eq_true value, fun _ =>
      rfl⟩
  | object id keywords ih =>
    intro hfree scope run hrun
    obtain ⟨hnone, hmembers⟩ := Schema.ReferenceFree.object_iff.mp hfree
    rw [Schema.derefWith_object, Action.on_bind, Action.on_recallNode]
    cases hit : (run.memo.recallNode (.object id keywords)).1 with
    | some result =>
      -- what is remembered of a node here is that node
      have hmark := hrun _ (Memo.mem_nodes_of_recallNode hit)
      refine ⟨result, _, rfl, .recallNode hrun _, Schema.isSameNode_of_mark?
        hmark keywords, ?_⟩
      exact fun hmiss => by cases hmiss
    | none =>
      rw [Memo.recallNode_fresh hit]
      dsimp only
      obtain ⟨results, memo, hons, hmemo, hsames⟩ :=
        Action.on_mapM_returns (fun s hs =>
          ih s hs (hmembers s hs) (scope.enter id keywords)) run
          hrun
      refine ⟨.object id keywords, _, ?_,
        hmemo.trans (.rememberNode hmemo.faithful id keywords),
        beq_self_eq_true id, fun _ => rfl⟩
      rw [Action.followIn_eq, hnone, pure_bind, derefKeywords_eq, Action.on_bind,
        Action.on_map, hons]
      simp only [Except.map, Action.conclude, Action.rebuild,
        Keywords.areSame_refill keywords results hsames, if_true, pure_bind]
      rfl

/-! ## Calls -/

/-- A call that gives back the very schema, leaves the session with that schema
registered and nothing else, and warns of nothing: no request, no key, no expansion
and no reuse of a reference. -/
def Idles (setup : Setup) (session : Session) (schema : Node) : Prop :=
  ∃ nodeHits, dereference setup session schema =
    ⟨.ok ⟨schema, [], ⟨0, 0, nodeHits⟩⟩,
      { session with catalog := session.catalog.register schema none }, []⟩

theorem Memo.recallNode_empty (enabled : Bool) (node : Node) :
    ((Memo.empty enabled).recallNode node).1 = none := by
  cases enabled <;> cases node <;> rfl

theorem idles_of_referenceFree (setup : Setup) (session : Session) {schema : Node}
    (hfree : schema.ReferenceFree) : Idles setup session schema := by
  obtain ⟨result, memo, hon, hidle, _, hfresh⟩ :=
    Schema.derefWith_returns setup (setup.hop setup.settings.maxDepth) schema hfree
      (.start schema none) (setup.begin session schema).toRun (Memo.faithful_empty _)
  -- nothing is remembered yet, so the root itself is no hit
  obtain rfl := hfresh (Memo.recallNode_empty _ schema)
  rw [← Node.deref_eq] at hon
  have hedges : memo.edges = [] := hidle.edges
  have hstats : memo.stats = ⟨0, 0, memo.stats.nodeHits⟩ :=
    Stats.mk.injEq .. ▸ ⟨hidle.expansions, hidle.referenceHits, rfl⟩
  refine ⟨memo.stats.nodeHits, ?_⟩
  rw [dereference_eq_of_on hon, ← hstats]
  simp only [Except.map, hedges]
  rfl

/-- What a call comes to under the policy `error` has no references left. -/
theorem referenceFree_of_error {setup : Setup} {session : Session}
    {schemas : List Node} {schema : Node} (h : session.Holds schemas)
    (hschema : schema ∈ schemas) (hpolicy : setup.settings.cyclePolicy = .error)
    {report : Report} (hok : (dereference setup session schema).result = .ok report) :
    report.schema.ReferenceFree := by
  obtain ⟨result, after, reach, walk, _, _⟩ := exists_callWalk setup h hschema
  rw [walk.dereference_eq] at hok
  cases result with
  | error error => cases hok
  | ok node =>
    cases hok
    have hbegin : (setup.begin session schema).Reported := fun note hnote =>
      absurd hnote List.not_mem_nil
    have hreported : Document.Reported after.memo.edges node.erase :=
      (Walk.reported walk hbegin _ rfl).2
    have hedges : after.memo.edges = [] := walk.edges_eq (by rw [hpolicy]; rfl)
    rw [hedges] at hreported
    intro id keywords happlies
    cases hreference : Keywords.reference? keywords with
    | none => rfl
    | some reference =>
      have herase := happlies.erase
      rw [Schema.erase_object] at herase
      obtain ⟨base, hbase⟩ :=
        hreported _ reference herase (by rw [Keywords.reference?_erase, hreference])
      exact absurd hbase List.not_mem_nil

/-- A schema in which nothing that is applied has a reference is a fixed point of
every call, with any settings and loader and in any session; so is whatever a call
comes to under the policy `error`. -/
theorem dereference_fixedPoints (setup : Setup) (session : Session) (schema : Node) :
    (schema.ReferenceFree → Idles setup session schema) ∧
    (∀ schemas, session.Holds schemas → schema ∈ schemas →
      setup.settings.cyclePolicy = .error →
      ∀ report, (dereference setup session schema).result = .ok report →
        ∀ again later, Idles again later report.schema) := by
  refine ⟨idles_of_referenceFree setup session, ?_⟩
  intro schemas h hschema hpolicy report hok again later
  exact idles_of_referenceFree again later
    (referenceFree_of_error h hschema hpolicy hok)

/-- A schema that applies no reference, with one among its definitions and one in
plain data. -/
def idleReferences : Document :=
  .object () [
    ("$defs", .map
      [("lost", .schema (.object () [("$ref", .value (.str "urn:lost"))]))]),
    ("allOf", .list [.schema (.object () [("items", .schema (.bool true))]),
      .schema (.bool false)]),
    ("const", .value (.obj [("$ref", .str "#/$defs/lost")]))]

/-- A schema with a property that is a reference to a definition. -/
def namedProperty : Document :=
  .object () [
    ("$defs", .map
      [("name", .schema (.object () [("type", .value (.str "string"))]))]),
    ("properties",
      .map [("name", .schema (.object () [("$ref", .value (.str "#/$defs/name"))]))])]

/-- The first schema comes back without a hop and without a loader; what the second
one comes to comes back from a session that does not know it. -/
theorem dereference_fixedPoints_idleReferences :
    Idles ⟨{ maxDepth := 0 }, .none⟩ (Session.empty.mint idleReferences).2
      (Session.empty.mint idleReferences).1 ∧
    ∃ report, (dereference ⟨{}, .none⟩ (Session.empty.mint namedProperty).2
        (Session.empty.mint namedProperty).1).result = .ok report ∧
      report.stats.expansions = 1 ∧
      Idles ⟨{ cyclePolicy := .lazy, useCache := false }, .none⟩ .empty
        report.schema := by
  refine ⟨(dereference_fixedPoints _ _ _).1 ?_, ⟨_, _, _⟩, rfl, rfl,
    (dereference_fixedPoints ⟨{}, .none⟩ (Session.empty.mint namedProperty).2 _).2 _
      (Session.holds_empty.mint namedProperty) List.mem_cons_self rfl _ rfl _ _⟩
  refine Schema.ReferenceFree.object_iff.mpr ⟨rfl, ?_⟩
  rintro s (_ | ⟨_, _ | ⟨_, ⟨⟩⟩⟩)
  · refine Schema.ReferenceFree.object_iff.mpr ⟨rfl, ?_⟩
    rintro s (_ | ⟨_, ⟨⟩⟩)
    exact .bool true
  · exact .bool false

end SchemaDeref
