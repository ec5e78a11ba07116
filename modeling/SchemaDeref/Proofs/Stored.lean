import SchemaDeref.Proofs.FixedPoints
import SchemaDeref.Proofs.Names

/-!
# Documents that were stored

Registering reads a URI by itself and files the document under what it reads; a
reference without a base is read the same way, so it finds the document
(`Uri.joinName`). Adding files a document under the URI as it is written, and a
reference finds it only if the URI reads as it is written: one without a path, with
capital letters in its host or with a default port does not.
-/

namespace SchemaDeref

/-! ## Names -/

theorem Uri.resourceName_of_not_mem {uri : String}
    (h : '#' ∉ uri.toList) : resourceName uri = uri :=
  (Unmarked.of_not_mem h).resourceName_eq

/-- What a URI without a fragment reads as is not stripped again. -/
theorem Uri.resourceName_joinName {uri : String} (h : '#' ∉ uri.toList) :
    resourceName (joinName none uri) = joinName none uri := by
  have hunmarked := join_unmarked none h
  rw [joinName, hunmarked.resourceName_eq, hunmarked.resourceName_eq]

/-! ## Reading the reference -/

theorem ReferenceParts.ofString_of_not_mem {uri : String} (hne : uri ≠ "")
    (h : '#' ∉ uri.toList) :
    ofString uri = ⟨some uri, none⟩ := by
  have hplain : ∀ c ∈ uri.toList, (c != '#') = true := by
    intro c hc
    have hchar : c ≠ '#' := fun heq => h (heq ▸ hc)
    simpa using hchar
  have hchars : uri.toList.isEmpty = false := by
    cases hempty : uri.toList.isEmpty with
    | false => rfl
    | true =>
      exact absurd (String.toList_eq_nil_iff.mp (List.isEmpty_iff.mp hempty)) hne
  rw [ofString, List.dropWhile_eq_nil_iff.mpr hplain,
    List.takeWhile_eq_self_iff.mpr hplain]
  simp only [nonEmpty, hchars, Bool.false_eq_true, if_false, String.ofList_toList]

/-! ## An object that is a reference -/

/-- An object with a `$ref` and nothing else. -/
def Schema.referring (id : NodeId) (uri : String) : Node :=
  .object id [(ReferenceKind.static.keyword, .value (.str uri))]

section

variable {setup : Setup} {go : Hop} {id : NodeId} {uri : String}

/-- The scope behind a `$ref` in a schema without a base. -/
def Scope.behind (root : Node) (uri : String) (document : Node) : Scope :=
  (Scope.start root none).descend (Reference.key ⟨.static, uri⟩ none) document
    (some (Uri.joinName none uri))

/-- A `$ref` to a document is followed by loading it. -/
theorem Reference.on_follow_document (hne : uri ≠ "") (h : '#' ∉ uri.toList)
    (root : Node) {run : Run}
    (fresh : (run.memo.recallTarget ⟨.static, uri⟩ none).1 = none) :
    (follow setup (some go) (.start root none) ⟨.static, uri⟩).on run =
      match (Action.load setup.loader (Uri.joinName none uri) uri).on run with
      | (.error error, after) => (.error error, after)
      | (.ok document, after) =>
        match (go document (.behind root uri document)).on
            { after with memo := after.memo.recordExpansion } with
        | (.error error, last) => (.error error, last)
        | (.ok result, last) =>
          (.ok (.target result),
            { last with
              memo := last.memo.rememberTarget ⟨.static, uri⟩ none result }) := by
  have hparts := ReferenceParts.ofString_of_not_mem hne h
  have hself : isSelf (Scope.start root none).view ⟨.static, uri⟩ = false := by
    simp only [isSelf, parts, hparts]
    rfl
  have hdestination : destination setup (.start root none) ⟨.static, uri⟩ = (do
      let document ← Action.load setup.loader (Uri.joinName none uri) uri
      return ⟨document, document, some (Uri.joinName none uri)⟩) := by
    simp only [destination, parts, hparts, Node.locate, Action.arrive, pure_bind]
    rfl
  rw [follow_eq_pursue]
  show (pursue setup (some go) (.start root none) ⟨.static, uri⟩).on run = _
  rw [on_pursue_fresh fresh, hself, hdestination, Action.on_bind]
  cases (Action.load setup.loader (Uri.joinName none uri) uri).on run with
  | mk outcome after =>
    cases outcome with
    | error error => rfl
    | ok document => rfl

/-- An object that is a reference is what the reference comes to. -/
theorem Schema.on_deref_referring {hop : Option Hop} {scope : Scope} {run : Run}
    (fresh : (run.memo.recallNode (referring id uri)).1 = none) :
    ((referring id uri).derefWith setup hop scope).on run =
      match (Reference.follow setup hop scope ⟨.static, uri⟩).on run with
      | (.error error, after) => (.error error, after)
      | (.ok .kept, after) =>
        (.ok (referring id uri),
          { after with
            memo := after.memo.rememberNode (referring id uri) (referring id uri) })
      | (.ok (.target result), after) =>
        (.ok result, { after with
          memo := after.memo.rememberNode (referring id uri) result }) := by
  have hfollow : Action.followIn setup hop (scope.enter id
      [(ReferenceKind.static.keyword, .value (.str uri))])
      [(ReferenceKind.static.keyword, .value (.str uri))] =
      Reference.follow setup hop scope ⟨.static, uri⟩ := rfl
  rw [referring] at fresh ⊢
  rw [derefWith_object, Action.on_bind, Action.on_recallNode, fresh,
    Memo.recallNode_fresh fresh]
  dsimp only
  rw [hfollow, Action.on_bind]
  cases (Reference.follow setup hop scope ⟨.static, uri⟩).on run with
  | mk outcome after =>
    cases outcome with
    | error error => rfl
    | ok outcome =>
      cases outcome with
      | kept => rfl
      | target result => rfl

end

/-! ## Calls -/

theorem Memo.recallTarget_empty (enabled : Bool) (reference : Reference)
    (base : Option String) :
    ((Memo.empty enabled).recallTarget reference base).1 = none := by
  obtain ⟨kind, target⟩ := reference
  cases enabled <;> cases kind <;> rfl

/-- Counting an expansion makes nothing remembered. -/
theorem Memo.recallNode_expanding (enabled : Bool) (node : Node) :
    ((Memo.empty enabled).recordExpansion.recallNode node).1 = none := by
  cases enabled <;> cases node <;> rfl

section

variable {setup : Setup} {session : Session} {id : NodeId} {uri : String}

/-- A call for a reference comes to a document that has no references, with one
expansion and nothing else done. -/
def Finds (setup : Setup) (session : Session) (id : NodeId) (uri : String)
    (document : Node) : Prop :=
  ∃ nodeHits, dereference setup session (.referring id uri) =
    ⟨.ok ⟨document, [], ⟨1, 0, nodeHits⟩⟩, session, []⟩

/-- A call for a reference loads the document that the reference reads as. -/
theorem on_deref_referring_start (setup : Setup) (session : Session) (id : NodeId)
    (hne : uri ≠ "") (hhash : '#' ∉ uri.toList) (hops : Nat) :
    (Node.deref setup (hops + 1) (.referring id uri)
      (.start (.referring id uri) none)).on
        (setup.begin session (.referring id uri)).toRun =
      match (Action.load setup.loader (Uri.joinName none uri) uri).on
          (setup.begin session (.referring id uri)).toRun with
      | (.error error, after) => (.error error, after)
      | (.ok document, after) =>
        match (Node.deref setup hops document
          (.behind (.referring id uri) uri document)).on
            { after with memo := after.memo.recordExpansion } with
        | (.error error, last) => (.error error, last)
        | (.ok result, last) =>
          (.ok result, { last with
            memo := (last.memo.rememberTarget ⟨.static, uri⟩ none result).rememberNode
              (.referring id uri) result }) := by
  have hfresh := Memo.recallTarget_empty setup.settings.useCache ⟨.static, uri⟩ none
  rw [Node.deref_eq, Schema.on_deref_referring (Memo.recallNode_empty _ _), Setup.hop,
    Reference.on_follow_document hne hhash _ hfresh]
  cases (Action.load setup.loader (Uri.joinName none uri) uri).on
      (setup.begin session (.referring id uri)).toRun with
  | mk outcome after =>
    cases outcome with
    | error error => rfl
    | ok document =>
      dsimp only
      cases (Node.deref setup hops document
        (.behind (.referring id uri) uri document)).on
          { after with memo := after.memo.recordExpansion } with
      | mk outcome last =>
        cases outcome with
        | error error => rfl
        | ok result => rfl

theorem finds_of_get? (hne : uri ≠ "") (hhash : '#' ∉ uri.toList)
    (hdepth : 0 < setup.settings.maxDepth) {document : Node}
    (hfree : document.ReferenceFree)
    (hget : session.catalog.get? (Uri.joinName none uri) = some document) :
    Finds setup session id uri document := by
  obtain ⟨hops, hhops⟩ := Nat.exists_eq_succ_of_ne_zero (Nat.ne_of_gt hdepth)
  let run := (setup.begin session (.referring id uri)).toRun
  have hload : (Action.load setup.loader (Uri.joinName none uri) uri).on run =
      (.ok document, run) := by
    rw [Action.on_load]
    have hfound : run.catalog.get? (Uri.joinName none uri) = some document := hget
    rw [hfound]
  obtain ⟨result, memo, hon, hidle, _, hfresh⟩ :=
    Schema.derefWith_returns setup (setup.hop hops) document hfree
      (.behind (.referring id uri) uri document) { run with
        memo := run.memo.recordExpansion }
      (Memo.faithful_empty setup.settings.useCache)
  -- nothing is remembered yet, so the document itself is no hit
  obtain rfl := hfresh (Memo.recallNode_expanding _ _)
  rw [← Node.deref_eq] at hon
  have hcode := on_deref_referring_start setup session id hne hhash hops
  rw [hload] at hcode
  dsimp only at hcode
  rw [hon, ← Nat.succ_eq_add_one, ← hhops] at hcode
  obtain ⟨references, htarget⟩ :=
    memo.exists_rememberTarget ⟨.static, uri⟩ none result
  obtain ⟨nodes, hnode⟩ :=
    ({ memo with references } : Memo).exists_rememberNode (.referring id uri) result
  have hedges : memo.edges = [] := hidle.edges
  have hstats : memo.stats = ⟨1, 0, memo.stats.nodeHits⟩ :=
    Stats.mk.injEq .. ▸ ⟨hidle.expansions, hidle.referenceHits, rfl⟩
  refine ⟨memo.stats.nodeHits, ?_⟩
  rw [dereference_eq_of_on hcode, htarget, hnode, ← hstats]
  simp only [Except.map, hedges]
  rfl

theorem lost_of_get? (hne : uri ≠ "") (hhash : '#' ∉ uri.toList)
    (hdepth : 0 < setup.settings.maxDepth)
    (hget : session.catalog.get? (Uri.joinName none uri) = none)
    (habsent : setup.loader session.asked (Uri.joinName none uri) = .absent) :
    (dereference setup session (.referring id uri)).result =
      .error (.unresolved uri) := by
  obtain ⟨hops, hhops⟩ := Nat.exists_eq_succ_of_ne_zero (Nat.ne_of_gt hdepth)
  let run := (setup.begin session (.referring id uri)).toRun
  have hload : ((Action.load setup.loader (Uri.joinName none uri) uri).on run) =
      (.error (.unresolved uri), Action.asking (Uri.joinName none uri) run) := by
    have hfree : run.catalog.get? (Uri.joinName none uri) = none := hget
    have hanswer : setup.loader run.asked (Uri.joinName none uri) = .absent := habsent
    rw [Action.on_load, hfree]
    dsimp only
    rw [hanswer]
  have hcode := on_deref_referring_start setup session id hne hhash hops
  rw [hload] at hcode
  rw [← Nat.succ_eq_add_one, ← hhops] at hcode
  rw [dereference_eq_of_on hcode]
  rfl

/-- A registered document is found by a `$ref` to the URI it was registered under,
and so is an added one if its URI reads as it is written. If it does not, the added
document is not found: the reference goes on to the loader, and fails where that
knows nothing. -/
theorem dereference_finds_stored (setup : Setup)
    (hdepth : 0 < setup.settings.maxDepth) (session : Session) (id : NodeId)
    (uri : String) (hne : uri ≠ "") (hhash : '#' ∉ uri.toList) (document : Node)
    (hfree : document.ReferenceFree) :
    (session.catalog.contains (Uri.joinName none uri) = false →
      Finds setup { session with
        catalog := session.catalog.register document (some uri) } id uri
        document) ∧
    (session.catalog.contains uri = false →
      (Uri.joinName none uri = uri →
        Finds setup { session with catalog := session.catalog.add uri document }
          id uri document) ∧
      (Uri.joinName none uri ≠ uri →
        session.catalog.contains (Uri.joinName none uri) = false →
        setup.loader session.asked (Uri.joinName none uri) = .absent →
          (dereference setup { session with
            catalog := session.catalog.add uri document }
            (.referring id uri)).result = .error (.unresolved uri))) := by
  refine ⟨fun hnew => ?_, fun hnew =>
    ⟨fun hself => ?_, fun hother hlost habsent => ?_⟩⟩
  · exact finds_of_get? hne hhash hdepth hfree (Catalog.get?_register hnew document)
  · refine finds_of_get? hne hhash hdepth hfree ?_
    rw [hself]
    exact Catalog.get?_add hnew document
  · refine lost_of_get? hne hhash hdepth ?_ habsent
    have hnames : Uri.resourceName (Uri.joinName none uri) ≠
        Uri.resourceName uri := by
      rwa [Uri.resourceName_joinName hhash, Uri.resourceName_of_not_mem hhash]
    show (session.catalog.add uri document).get? (Uri.joinName none uri) = none
    rw [Catalog.get?_add_other hnames]
    exact Option.isNone_iff_eq_none.mp (Option.isSome_eq_false_iff.mp hlost)

def textual : Node := .object 1 [("type", .value (.str "string"))]

theorem referenceFree_textual : textual.ReferenceFree :=
  Schema.ReferenceFree.object_iff.mpr ⟨rfl, fun _ hs => by cases hs⟩

/-- A URI without a path, which is read with one. -/
def pathless : String := "http://a"

theorem joinName_pathless :
    Uri.joinName none pathless = "http://a/" := by decide +kernel

/-- An empty session but for one document that was added. -/
def Session.adding (uri : String) (document : Node) : Session :=
  { Session.empty with catalog := Catalog.empty.add uri document }

theorem dereference_finds_stored_textual :
    Finds ⟨{}, .none⟩ { Session.empty with
      catalog := Catalog.empty.register textual (some pathless) } 0
      pathless textual ∧
    Finds ⟨{}, .none⟩ (.adding "urn:b" textual) 0 "urn:b" textual ∧
    (dereference ⟨{}, .none⟩ (.adding pathless textual)
      (.referring 0 pathless)).result =
      .error (.unresolved pathless) := by
  have hflag :=
    dereference_finds_stored ⟨{}, .none⟩ (by decide) .empty 0 "urn:b" (by decide)
    (by decide) textual referenceFree_textual
  have hpathless :=
    dereference_finds_stored ⟨{}, .none⟩ (by decide) .empty 0 pathless (by decide)
    (by decide) textual referenceFree_textual
  exact ⟨hpathless.1 rfl, (hflag.2 rfl).1 (by decide +kernel),
    (hpathless.2 rfl).2 (joinName_pathless ▸ by decide) (joinName_pathless ▸ rfl) rfl⟩

/-- A document without references is added under a URI that no other has, and a
`$ref` to the very same URI fails. -/
theorem dereference_misses_added :
    pathless ≠ "" ∧ '#' ∉ pathless.toList ∧ textual.ReferenceFree ∧
    Session.empty.catalog.contains pathless = false ∧
    (Session.adding pathless textual).catalog.get? pathless = some textual ∧
    (dereference ⟨{}, .none⟩ (.adding pathless textual)
      (.referring 0 pathless)).result =
      .error (.unresolved pathless) := by
  refine ⟨by decide, by decide, referenceFree_textual, rfl, rfl, ?_⟩
  have hget : (Session.adding pathless textual).catalog.get?
      (Uri.joinName none pathless) = none := by
    rw [joinName_pathless]
    rfl
  exact lost_of_get? (by decide) (by decide) (by decide) hget rfl

end

end SchemaDeref
