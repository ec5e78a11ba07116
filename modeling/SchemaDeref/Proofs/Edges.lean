import SchemaDeref.Proofs.Remains
import SchemaDeref.Proofs.Tasks

/-!
# Kept references in a result

A circular reference is kept as it is written. It was circular where it was read:
its key is that of a reference that was followed, and so had a place to lead to, or
it names the whole document. Where that document is the one the call is made for,
the result has that place too, unless it is lost in merging
(`dereference_edges_locate`).
-/

namespace SchemaDeref

variable {setup : Setup} {session : Session} {schema : Node}

/-! ## Where keys come from -/

/-- A reference that is reached and circular. -/
structure CirclesAt (setup : Setup) (session : Session) (schema : Node) (way : Way)
    (hops : Nat) (scope : Scope) (reference : Reference) (run : Run) : Prop where
  reached : Reaches setup session schema way hops scope (.reference reference) run
  circular : scope.view.circles reference = true

/-- The key is that of a reference which is reached and circular. -/
def IsCircleKey (setup : Setup) (session : Session) (schema : Node)
    (key : String) : Prop :=
  ∃ way hops scope reference run, CirclesAt setup session schema way hops scope
    reference run ∧
    key = reference.key scope.base

/-- The keys a task records are those of circular references. -/
theorem Task.isCircleKey (hops : Nat) (task : Task) :
    ∀ way scope run result after, Reaches setup session schema way hops
      scope task run →
      (task.action setup hops scope).on run = (result, after) →
      ∀ key ∈ after.memo.edges, key ∈ run.memo.edges ∨ IsCircleKey setup session
        schema key := by
  induction hops, task using Task.induction with
  | bool hops value =>
    intro way scope run result after reached h key hkey
    cases Task.goes h
    exact .inl hkey
  | object hops id keywords ihlink ihmembers =>
    intro way scope run result after node h key hkey
    cases Task.goes h with
    | recalled hit => exact .inl (Memo.edges_recallNode _ _ ▸ hkey)
    | unlinked fresh link => exact ihlink _ _ _ _ _ (node.entered fresh) link key hkey
    | unfinished fresh link members =>
      have entered := node.entered fresh
      have followed := (Action.on_map_eq_ok Answer.outcome_inj).mp link
      exact (ihmembers _ _ _ _ _ (entered.applied followed) members key hkey).elim
        (ihlink _ _ _ _ _ entered link key) .inr
    | concluded fresh link members =>
      have entered := node.entered fresh
      have followed := (Action.on_map_eq_ok Answer.outcome_inj).mp link
      rw [Memo.edges_rememberNode] at hkey
      exact (ihmembers _ _ _ _ _ (entered.applied followed) members key hkey).elim
        (ihlink _ _ _ _ _ entered link key) .inr
  | nil hops =>
    intro way scope run result after reached h key hkey
    cases Task.goes h
    exact .inl hkey
  | cons hops node rest ihhead ihtail =>
    intro way scope run result after nodes h key hkey
    cases Task.goes h with
    | headFailed head => exact ihhead _ _ _ _ _ nodes.first head key hkey
    | tailFailed head tail | cons head tail =>
      have dereferenced := (Action.on_map_eq_ok Answer.node_inj).mp head
      exact (ihtail _ _ _ _ _ (nodes.next dereferenced) tail key hkey).elim
        (ihhead _ _ _ _ _ nodes.first head key) .inr
  | link hops keywords ih =>
    intro way scope run result after link h key hkey
    cases Task.goes h with
    | unreferring none => exact .inl hkey
    | @referring _ _ _ _ reference _ _ some follow =>
      obtain ⟨warnings, hwarn⟩ :=
        Action.exists_warnOfSeveral keywords reference.kind run
      have referring := link.referring some
      rw [hwarn] at follow referring
      exact ih _ _ _ _ _ _ referring follow key hkey
  | reference hops reference ih =>
    intro way scope run result after reached h key hkey
    have hmemo := reference.memo_destination setup scope run
    cases Task.goes h with
    | reused hit => exact .inl (Memo.edges_recallTarget _ _ _ ▸ hkey)
    | circled fresh circles =>
      rcases Memo.mem_insertKey.mp hkey with rfl | hkey
      · exact .inr ⟨_, _, _, _, _, ⟨reached, circles⟩, rfl⟩
      · exact .inl hkey
    | circular fresh circles => exact .inl hkey
    | tooDeep fresh straight => exact .inl hkey
    | lost fresh straight route =>
      rw [route] at hmemo
      exact .inl (hmemo ▸ hkey)
    | unexpanded fresh straight route target =>
      rw [route] at hmemo
      have followed := reached.followed fresh straight route
      exact (ih _ _ rfl _ _ _ _ _ followed target key hkey).imp_left
        fun h => hmemo ▸ h
    | expanded fresh straight route target =>
      rw [route] at hmemo
      rw [Memo.edges_rememberTarget] at hkey
      have followed := reached.followed fresh straight route
      exact (ih _ _ rfl _ _ _ _ _ followed target key hkey).imp_left
        fun h => hmemo ▸ h

/-- The keys a call reports are those of circular references that it has come to. -/
theorem isCircleKey_of_mem_edges {report : Report}
    (h : (dereference setup session schema).result = .ok report) :
    ∀ key ∈ report.edges, IsCircleKey setup session schema key := by
  intro key hkey
  cases hon :
    (Node.deref setup setup.settings.maxDepth schema (.start schema none)).on
    (setup.begin session schema).toRun with
  | mk outcome after =>
    rw [dereference_eq_of_on hon] at h
    cases outcome with
    | error error => cases h
    | ok node =>
      cases h
      have hedges := Task.isCircleKey _ (.node schema) _ _ _ _ _ .start
        (Action.on_map_of Answer.node hon) key hkey
      exact hedges.resolve_left List.not_mem_nil

/-- A key that is being expanded is that of a reference which was followed to its
destination. -/
theorem Reaches.exists_follows {way : Way} {hops : Nat} {scope : Scope}
    {task : Task} {run : Run}
    (reaches : Reaches setup session schema way hops scope task run) :
    ∀ key ∈ scope.path, ∃ way' hops' scope' reference run',
      Follows setup session schema way' hops' scope' reference run' ∧
        key = reference.key scope'.base ∧
        ∃ destination after, (reference.destination setup scope').on run' =
          (.ok destination, after) := by
  induction reaches with
  | start => exact fun key hkey => absurd hkey List.not_mem_nil
  | entered _ _ ih =>
    rw [Scope.path_enter]
    exact ih
  | applied _ _ ih | first _ ih | next _ _ ih | referring _ _ ih => exact ih
  | followed reached fresh straight arrived ih =>
    intro key hkey
    rcases List.mem_cons.mp hkey with rfl | hkey
    · exact ⟨_, _, _, _, _, ⟨reached, fresh, straight⟩, rfl, _, _, arrived⟩
    · exact ih key hkey

/-! ## Places that kept references name -/

/-- The fragment of a reference names a place in a document. -/
def Node.Locates (document : Node) (fragment : Option String) : Prop :=
  ∃ landing, document.locate fragment = .ok landing

/-- Whatever reference the call meets under a key that it reports for a `$ref`
without a document of its own, it is this `$ref`, read in the schema of the call. -/
def ReadsOwn (setup : Setup) (session : Session) (schema : Node) (target : String)
    (edges : List String) : Prop :=
  ∀ way hops scope reference run (base : Option String),
    Reaches setup session schema way hops scope (.reference reference) run →
    reference.key scope.base ∈ edges →
    reference.key scope.base = (⟨.static, target⟩ : Reference).key base →
    reference = ⟨.static, target⟩ ∧ scope.root = schema

theorem Reference.locates_of_destination {scope : Scope} {target : String}
    {run after : Run} {destination : Destination NodeId}
    (huri : (ReferenceParts.ofString target).uri = none)
    (h : ((⟨.static, target⟩ : Reference).destination setup scope).on run =
      (.ok destination, after)) :
    scope.root.Locates (ReferenceParts.ofString target).fragment := by
  simp only [Reference.destination, Reference.parts, huri, Reference.landing] at h
  obtain ⟨place, middle, harrive, _⟩ := Action.on_bind_eq_ok.mp h
  cases hlocate : scope.root.locate (ReferenceParts.ofString target).fragment with
  | ok landing => exact ⟨landing, hlocate⟩
  | error error =>
    rw [hlocate] at harrive
    cases harrive

/-- The root of a document is always there. -/
theorem Node.locates_of_isRoot (document : Node) {parts : ReferenceParts}
    (h : parts.isRoot = true) :
    document.Locates parts.fragment := by
  simp only [ReferenceParts.isRoot, Bool.and_eq_true] at h
  cases hfragment : parts.fragment with
  | none => exact ⟨_, rfl⟩
  | some text =>
    have hempty : text = "" := by simpa [hfragment] using h.2
    subst hempty
    exact ⟨.found document, rfl⟩

/-- That what a task is about belongs to a schema that has one reference alone. -/
def Task.IsOf (schema : Node) (reference : Reference) : Task → Prop
  | .node s => s ∈ schema.nodes
  | .nodes list => ∀ s ∈ list, s ∈ schema.nodes
  | .link keywords => ∃ id, Schema.object id keywords ∈ schema.nodes
  | .reference other => other = reference

/-- A schema in which one `$ref` is the only reference, and leads to a schema in it,
reads it alone. -/
theorem readsOwn_of_lone {target : String} {place : Node}
    (huri : (ReferenceParts.ofString target).uri = none)
    (hlone : ∀ s ∈ schema.nodes, s.reference? = none ∨
      s.reference? = some ⟨.static, target⟩)
    (hfound : schema.locate (ReferenceParts.ofString target).fragment =
      .ok (.found place))
    (edges : List String) : ReadsOwn setup session schema target edges := by
  -- every node that is reached is one of the schema
  have hinside : ∀ {way hops scope task run}, Reaches setup session schema way hops
      scope task run →
      scope.root = schema ∧ task.IsOf schema ⟨.static, target⟩ := by
    intro way hops scope task run reaches
    induction reaches with
    | start => exact ⟨rfl, schema.mem_nodes_self⟩
    | entered _ _ ih => exact ⟨(Scope.enter_root ..).trans ih.1, _, ih.2⟩
    | applied _ _ ih =>
      obtain ⟨hroot, id, hmem⟩ := ih
      refine ⟨hroot, fun s hs => Schema.mem_nodes_trans hmem ?_⟩
      rw [Schema.nodes]
      exact List.mem_cons_of_mem _ (Keywords.applied_subset_nodes _ hs)
    | first _ ih => exact ⟨ih.1, ih.2 _ List.mem_cons_self⟩
    | next _ _ ih => exact ⟨ih.1, fun s hs => ih.2 s (List.mem_cons_of_mem _ hs)⟩
    | referring _ some ih =>
      obtain ⟨hroot, id, hmem⟩ := ih
      rcases hlone _ hmem with hnone | hsome
      · cases hnone.symm.trans some
      · cases hsome.symm.trans some
        exact ⟨hroot, rfl⟩
    | @followed _ _ scope _ _ _ _ _ _ _ arrived ih =>
      obtain ⟨hroot, rfl⟩ := ih
      simp only [Reference.destination, Reference.parts, huri,
        Reference.landing, hroot, hfound] at arrived
      cases arrived
      exact ⟨rfl, Schema.mem_nodes_of_locate hfound⟩
  intro way hops scope reference run base reaches _ _
  exact ⟨(hinside reaches).2, (hinside reaches).1⟩

theorem Schema.Laid.locates_iff {layout : Layout} {document : Node}
    (h : document.Laid layout) (fragment : Option String) :
    document.Locates fragment ↔ ∃ s, Document.locate document.erase fragment =
      .ok s := by
  rw [h.locate_erase, Node.Locates]
  cases document.locate fragment <;> simp [Except.map]

/-- The `$ref` of a reported circle names a place in the schema of the call, if it
is read there. -/
theorem locates_of_isCircleKey {target : String} {edges : List String}
    (huri : (ReferenceParts.ofString target).uri = none)
    (hown : ReadsOwn setup session schema target edges) {base : Option String}
    (hedges : (⟨.static, target⟩ : Reference).key base ∈ edges)
    (hcircle : IsCircleKey setup session schema
      ((⟨.static, target⟩ : Reference).key base)) :
    schema.Locates (ReferenceParts.ofString target).fragment := by
  obtain ⟨way, hops, scope, reference, run, ⟨reached, circular⟩, hkey⟩ := hcircle
  obtain ⟨rfl, hroot⟩ := hown _ _ _ _ _ _ reached (hkey ▸ hedges) hkey.symm
  rw [View.circles, Bool.or_eq_true] at circular
  rcases circular with honpath | hself
  · -- the reference that is being expanded under this key was followed to a place
    obtain ⟨way', hops', scope', reference', run', follows, hkey', destination,
      after, arrived⟩ :=
      reached.exists_follows _ (List.contains_iff_mem.mp honpath)
    have hsame := hkey.trans hkey'
    obtain ⟨rfl, hroot'⟩ :=
      hown _ _ _ _ _ _ follows.reached (hsame ▸ hedges) hsame.symm
    exact hroot' ▸ Reference.locates_of_destination huri arrived
  · exact schema.locates_of_isRoot hself

/-! ## Calls -/

/-- The reference an object follows is one it has. -/
theorem Keywords.string?_of_reference? {ι : Type} {keywords : Keywords ι}
    {reference : Reference} (h : reference? keywords = some reference) :
    string? keywords reference.kind.keyword = some reference.target := by
  obtain ⟨kind, _, hkind⟩ := List.exists_of_findSome?_eq_some h
  obtain ⟨target, htarget, rfl⟩ := Option.map_eq_some_iff.mp hkind
  exact htarget

/-- A `$ref` that is followed where it stands in a result, and that was read in the
schema of the call wherever it was circular, names a place in that schema. -/
theorem CallWalk.locates {Fair : Fairness} {result : Node} {after : State}
    {reach : Reach}
    (walk : CallWalk setup Fair session schema (.ok result) after reach)
    {id : NodeId} {keywords : Keywords NodeId}
    (happlies : result.Applies (.object id keywords)) {target : String}
    (hreference : Keywords.reference? keywords = some ⟨.static, target⟩)
    (huri : (ReferenceParts.ofString target).uri = none)
    (hown : ReadsOwn setup session schema target after.memo.edges) :
    schema.Locates (ReferenceParts.ofString target).fragment := by
  have hreported : Document.Reported after.memo.edges result.erase :=
    (Walk.reported walk (fun _ hnote => absurd hnote List.not_mem_nil) _ rfl).2
  have herase := happlies.erase
  rw [Schema.erase_object] at herase
  obtain ⟨base, hbase⟩ :=
    hreported _ _ herase ((Keywords.reference?_erase keywords).trans hreference)
  have hok := congrArg Completed.result walk.dereference_eq
  exact locates_of_isCircleKey huri hown hbase (isCircleKey_of_mem_edges hok _ hbase)

/-- Let a `$ref` without a document of its own stand where the result of a call is
applied, and let its fragment name a place in the schema of the call; so it does if
it is the reference followed there and every reference met under its keys was this
one, read in that schema. Then the fragment names a place in the result, unless the
place is lost: an object on the way is `false` in the result, or the pointer leaves
an object by a reference keyword. -/
theorem dereference_edges_locate (setup : Setup) {session : Session}
    {schemas : List Node} {schema : Node} (h : session.Holds schemas)
    (hschema : schema ∈ schemas) (hwell : schema.toJson.WellFormed) {report : Report}
    (hok : (dereference setup session schema).result = .ok report) {id : NodeId}
    {keywords : Keywords NodeId}
    (happlies : report.schema.Applies (.object id keywords)) {target : String}
    (htarget : Keywords.string? keywords "$ref" = some target)
    (huri : (ReferenceParts.ofString target).uri = none)
    (hread : schema.Locates (ReferenceParts.ofString target).fragment ∨
      (Keywords.reference? keywords).map Reference.kind = some .static ∧
        ReadsOwn setup session schema target report.edges) :
    report.schema.Locates (ReferenceParts.ofString target).fragment ∨
      ∃ text, (ReferenceParts.ofString target).fragment = some text ∧
        Document.Loses schema.erase report.schema.erase text := by
  obtain ⟨result, after, reach, walk, _, hholds⟩ := exists_callWalk setup h hschema
  rw [walk.dereference_eq] at hok
  cases result with
  | error error => cases hok
  | ok node =>
    cases hok
    have hlocates : schema.Locates (ReferenceParts.ofString target).fragment := by
      rcases hread with hlocates | ⟨hkind, hown⟩
      · exact hlocates
      · obtain ⟨⟨kind, text⟩, hreference, rfl⟩ := Option.map_eq_some_iff.mp hkind
        have htext := (Keywords.string?_of_reference? hreference).symm.trans htarget
        cases htext
        exact walk.locates happlies hreference huri hown
    obtain ⟨layout, _, hlaid⟩ := hholds node rfl
    have hnode : node.Laid layout := hlaid node List.mem_cons_self
    have hinput : schema.Laid layout := hlaid schema (List.mem_cons_of_mem _ hschema)
    rw [hinput.locates_iff] at hlocates
    rw [hnode.locates_iff]
    have hkeeps := walk.remains ((Schema.toJson_erase schema).symm ▸ hwell)
    exact Document.exists_locate_of_keeps hkeeps hlocates

/-- A list of nodes of one kind. -/
def linkedNodes : Document :=
  .object () [
    ("$defs", .map [("node", .schema (.object () [("properties",
      .map [("next",
        .schema (.object () [("$ref", .value (.str "#/$defs/node"))]))])]))]),
    ("properties",
      .map [("first",
        .schema (.object () [("$ref", .value (.str "#/$defs/node"))]))])]

/-- The reference to the kind of the nodes can be followed in the result. -/
theorem dereference_edges_locate_linkedNodes :
    ∃ report id keywords, (dereference ⟨{ cyclePolicy := .lazy }, .none⟩
        (Session.empty.mint linkedNodes).2
        (Session.empty.mint linkedNodes).1).result = .ok report ∧
      (Session.empty.mint linkedNodes).1.toJson.WellFormed ∧
      report.schema.Applies (.object id keywords) ∧
      Keywords.string? keywords "$ref" = some "#/$defs/node" ∧
      ReadsOwn ⟨{ cyclePolicy := .lazy }, .none⟩ (Session.empty.mint linkedNodes).2
        (Session.empty.mint linkedNodes).1 "#/$defs/node" report.edges ∧
      (report.schema.Locates (some "/$defs/node") ∨
        ∃ text, some "/$defs/node" = some text ∧
        Document.Loses (Session.empty.mint linkedNodes).1.erase
          report.schema.erase text) := by
  have well : (Session.empty.mint linkedNodes).1.toJson.WellFormed := by
    decide +kernel
  have own : ∀ edges, ReadsOwn ⟨{ cyclePolicy := .lazy }, .none⟩
      (Session.empty.mint linkedNodes).2 (Session.empty.mint linkedNodes).1
      "#/$defs/node" edges := by
    exact readsOwn_of_lone rfl (by decide +kernel) rfl
  obtain ⟨report, id, keywords, ok, applies, followed⟩ : ∃ report id keywords,
      (dereference ⟨{ cyclePolicy := .lazy }, .none⟩
        (Session.empty.mint linkedNodes).2
        (Session.empty.mint linkedNodes).1).result = .ok report ∧
      report.schema.Applies (.object id keywords) ∧
      Keywords.reference? keywords = some ⟨.static, "#/$defs/node"⟩ :=
    ⟨⟨_, _, _⟩, _, _, rfl, .under (.head _) (.under (.head _) (.refl _)), rfl⟩
  have target := Keywords.string?_of_reference? followed
  refine ⟨report, id, keywords, ok, well, applies, target, own _, ?_⟩
  exact dereference_edges_locate ⟨{ cyclePolicy := .lazy }, .none⟩
    (Session.holds_empty.mint linkedNodes) List.mem_cons_self well ok applies target
    rfl (.inr ⟨by rw [followed]; rfl, own _⟩)

/-- A call under the policy `ignore`, with one document for all names, comes to a
result in which a `$ref` without a document of its own stands where it is applied
and names no place. -/
def Strands (served document : Document) (target : String) : Prop :=
  ∃ report id keywords error,
    (dereference ⟨{ cyclePolicy := .ignore }, .ofFunction fun _ => .document served⟩
      (Session.empty.mint document).2 (Session.empty.mint document).1).result =
        .ok report ∧
    report.schema.Applies (.object id keywords) ∧
    Keywords.string? keywords "$ref" = some target ∧
    (ReferenceParts.ofString target).uri = none ∧
    report.schema.locate (ReferenceParts.ofString target).fragment = .error error

/-- The keywords of the object at the end of a way that takes the applied schemas by
their positions. -/
def Schema.appliedAt? {ι : Type} : Schema ι → List Nat → Option (ι × Keywords ι)
  | .object mark keywords, [] => some (mark, keywords)
  | .object _ keywords, position :: way =>
    (Keywords.applied keywords)[position]? >>= fun s => s.appliedAt? way
  | .bool _, _ => none

theorem Schema.applies_of_appliedAt {ι : Type} {mark : ι} {keywords : Keywords ι}
    {s : Schema ι} {way : List Nat} (h : s.appliedAt? way = some (mark, keywords)) :
    s.Applies (.object mark keywords) := by
  induction way generalizing s with
  | nil =>
    cases s with
    | bool _ => cases h
    | object _ _ =>
      cases h
      exact .refl _
  | cons position way ih =>
    cases s with
    | bool _ => cases h
    | object _ members =>
      obtain ⟨s, hs, h⟩ := Option.bind_eq_some_iff.mp h
      exact .under (List.mem_of_getElem? hs) (ih h)

/-- Whether the object at a position of a result has a `$ref` that names no place. -/
def strandsAt (served document : Document) (target : String)
    (way : List Nat) : Bool :=
  match (dereference ⟨{ cyclePolicy := .ignore }, .ofFunction
    fun _ => .document served⟩
      (Session.empty.mint document).2 (Session.empty.mint document).1).result with
  | .error _ => false
  | .ok report =>
    match report.schema.appliedAt? way,
        report.schema.locate (ReferenceParts.ofString target).fragment with
    | some (_, keywords), .error _ =>
      Keywords.string? keywords "$ref" == some target &&
        (ReferenceParts.ofString target).uri == none
    | _, _ => false

theorem strands_of_strandsAt {served document : Document} {target : String}
    {way : List Nat} (h : strandsAt served document target way = true) :
    Strands served document target := by
  unfold strandsAt at h
  split at h
  · cases h
  · next report hok =>
    split at h
    · next id keywords error hat hlocate =>
      simp only [Bool.and_eq_true, beq_iff_eq] at h
      exact ⟨report, id, keywords, error, hok, Schema.applies_of_appliedAt hat,
        h.1, h.2, hlocate⟩
    · cases h

/-- A reference to itself, written for the root of its document. -/
def inverse : Document :=
  .object () [("not", .schema (.object () [("$ref", .value (.str "#/not"))]))]

/-- A property that refers to the document above. -/
def inverseReferring : Document :=
  .object () [("properties",
    .map [("p", .schema (.object () [("$ref", .value (.str "urn:b"))]))])]

/-- A `$ref` beside another reference, which is followed instead. -/
def unfollowed : Document :=
  .object () [("$dynamicRef", .value (.str "#")), ("$ref", .value (.str "#/nowhere"))]

/-- A place beside a reference to `false`, and a reference to the place. -/
def buriedPlace : Document :=
  .object () [
    ("$defs", .map [("never", .schema (.bool false))]),
    ("properties", .map [
      ("a", .schema (.object () [("$ref", .value (.str "#/$defs/never")),
        ("not", .schema
          (.object () [("$ref", .value (.str "#/properties/a/not"))]))])),
      ("b", .schema (.object () [("$ref", .value (.str "#/properties/a/not"))]))])]

/-- A place in a reference keyword that is no reference, and a reference to the
place. -/
def droppedPlace : Document :=
  .object () [
    ("$defs", .map
      [("text", .schema (.object () [("type", .value (.str "string"))]))]),
    ("properties", .map [
      ("a", .schema (.object () [("$recursiveRef", .value (.str "#/$defs/text")),
        ("$ref", .value (.obj [("x", .obj [("not", .obj [("$ref",
          .str "#/properties/a/$ref/x")])])]))])),
      ("b", .schema (.object () [("$ref", .value (.str "#/properties/a/$ref/x"))]))])]

/-- Two references with one key, of which the inner one names no place. -/
def sharedKey : Document :=
  .object () [("$id", .value (.str "u:x")),
    ("p|#", .value (.obj [("b", .obj [("$id", .str "u:x|#/p"),
      ("not", .obj [("$ref", .str "#/b")])])])),
    ("properties",
      .map [("q", .schema (.object () [("$ref", .value (.str "#/p|#/b"))]))])]

/-- A kept reference cannot be followed in the result where it was read in another
document, where another reference of its object is followed, where its place is
buried or dropped, and where it was taken for another reference. -/
theorem dereference_edges_strand :
    Strands inverse inverseReferring "#/not" ∧ Strands (.bool true) unfollowed
      "#/nowhere" ∧
      Strands (.bool true) buriedPlace "#/properties/a/not" ∧
      Strands (.bool true) droppedPlace "#/properties/a/$ref/x" ∧
      Strands (.bool true) sharedKey "#/b" := by
  refine ⟨?_, ?_, ?_, ?_, ?_⟩
  · exact strands_of_strandsAt (by decide +kernel : strandsAt _ _ _ [0, 0] = true)
  · exact strands_of_strandsAt (by decide +kernel : strandsAt _ _ _ [] = true)
  · exact strands_of_strandsAt (by decide +kernel : strandsAt _ _ _ [1] = true)
  · exact strands_of_strandsAt (by decide +kernel : strandsAt _ _ _ [1, 0] = true)
  · exact strands_of_strandsAt (by decide +kernel : strandsAt _ _ _ [0, 0] = true)

end SchemaDeref
