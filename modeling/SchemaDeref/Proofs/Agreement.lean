import SchemaDeref.Proofs.Growth

/-!
# Walks that agree

Two walks that remember nothing, for the same task in different views. If the second
begins in a view that the steps of the first reach, and in a state that has what the
first left behind, it comes to the same answer and adds nothing (`Walk.agrees`).
Where circular references are failures it does not matter what is in flight. The
loader must give the same answers again.
-/

namespace SchemaDeref

/-! ## Registering again -/

/-- A document that was fetched is fetched again, from a loader that does not change
its answers. -/
theorem World.fetch_again {f : String → Reply} {name target : String}
    {world after later : World} {document : Document}
    (h : world.fetch (Loader.ofFunction f) name target = (.ok document, after))
    (hwithin : after.catalog.Within later.catalog)
    (hnamed : ∀ other, later.catalog.get? name = some other → other = document) :
    ∃ asked, later.fetch (Loader.ofFunction f) name target =
      (.ok document, { later with asked }) := by
  cases hlater : later.catalog.get? name with
  | some other =>
    refine ⟨later.asked, ?_⟩
    rw [World.fetch, hlater, hnamed other hlater]
  | none =>
    simp only [World.fetch] at h ⊢
    rw [hlater]
    cases hget : world.catalog.get? name with
    | some other =>
      rw [hget] at h
      obtain ⟨hdocument, rfl⟩ := Prod.mk.inj h
      rw [hwithin name other hget] at hlater
      cases hlater
    | none =>
      rw [hget] at h
      cases hreply : f name with
      | document loaded =>
        simp only [Loader.ofFunction, hreply] at h ⊢
        obtain ⟨hdocument, rfl⟩ := Prod.mk.inj h
        cases hdocument
        refine ⟨later.asked ++ [name], ?_⟩
        -- the same reply as the first time, and what it would register is there
        rw [Catalog.register_eq_self hwithin]
      | absent | failed message | refused error =>
        simp [Loader.ofFunction, hreply] at h

/-! ## Views -/

namespace View

/-- Two views with the same documents around. What is in flight need be the same
only if that matters. -/
structure Resembles (keeps : Bool) (view other : View) : Prop where
  root : view.root = other.root
  base : view.base = other.base
  anchors : view.anchors = other.anchors
  bindings : view.bindings = other.bindings
  path : keeps = true → view.path = other.path

namespace Resembles

variable {keeps : Bool} {view other : View}

theorem refl (view : View) :
    view.Resembles keeps view := ⟨rfl, rfl, rfl, rfl, fun _ => rfl⟩

theorem eq_of_keeps (h : view.Resembles keeps other) (hkeeps : keeps = true) :
    view = other := by
  obtain ⟨root, base, path, anchors, bindings⟩ := view
  obtain ⟨hroot, hbase, hanchors, hbindings, hpath⟩ := h
  cases hroot
  cases hbase
  cases hanchors
  cases hbindings
  cases hpath hkeeps
  rfl

theorem enter (h : view.Resembles keeps other) (keywords : Keywords Unit) :
    (view.enter keywords).Resembles keeps (other.enter keywords) := by
  simp only [View.enter, h.root, h.base, h.anchors, h.bindings]
  exact ⟨rfl, rfl, rfl, rfl, h.path⟩

theorem descend (h : view.Resembles keeps other) (key : String) (root : Document)
    (base : Option String) :
    (view.descend key root base).Resembles keeps (other.descend key root base) :=
  ⟨rfl, rfl, h.anchors, h.bindings, fun hkeeps => congrArg (key :: ·) (h.path hkeeps)⟩

theorem behind (h : view.Resembles keeps other) (reference : Reference)
    (destination : Destination Unit) :
    (view.behind reference destination).Resembles keeps
      (other.behind reference destination) := by
  simp only [View.behind, h.root, h.base]
  split
  · exact h.descend _ _ _
  · exact h.descend _ _ _

theorem place_eq (h : view.Resembles keeps other) (reference : Reference) :
    view.place reference = other.place reference := by
  simp only [View.place, dynamicPlace, recursiveAnchor?, binding?, h.root,
    h.anchors, h.bindings]

end Resembles

variable {f : String → Reply} {reference : Reference}

/-- Behind a reference lies what is behind its destination. -/
theorem behind_eq_descend {view : View} {loader : Loader} {world after : World}
    {destination : Destination Unit}
    (h : view.destination loader reference world = (.ok destination, after)) :
    view.behind reference destination =
      view.descend (reference.key view.base) destination.root destination.base := by
  cases huri : reference.parts.uri with
  | some uri => simp only [behind, huri]
  | none =>
    simp only [View.destination, huri] at h
    obtain ⟨hdestination, -⟩ := Prod.mk.inj h
    cases hplace : view.place reference with
    | error error =>
      rw [hplace] at hdestination
      cases hdestination
    | ok place =>
      rw [hplace] at hdestination
      cases hdestination
      simp only [behind, huri]

/-- What a way has in common with one that was gone before. -/
structure Repeats (first other : View) (reference : Reference)
    (destination again : Destination Unit) :
    Prop where
  place : again.place = destination.place
  sameWay : ∀ (view : View) (catalog : Catalog Unit),
    view.SameWay first catalog reference destination →
      view.SameWay other catalog reference again
  behind : ∀ view : View, view.behind reference destination =
    view.behind reference again

/-- Where a view resembles one on the same way, the way is gone again, and nothing
is added. -/
theorem destination_again {keeps : Bool} {first view other : View}
    {world after later last : World} {destination : Destination Unit}
    {outcome : Except DerefError (Destination Unit)}
    (h : first.destination (Loader.ofFunction f) reference world =
      (.ok destination, after)) (hother :
        other.destination (Loader.ofFunction f) reference later = (outcome, last))
    (hway : view.SameWay first later.catalog reference destination)
    (hresembles : view.Resembles keeps other)
    (hwithin : after.catalog.Within later.catalog) :
    ∃ again, outcome = .ok again ∧ last.catalog = later.catalog ∧
      Repeats first other reference destination again := by
  cases huri : reference.parts.uri with
  | none =>
    simp only [View.destination, huri] at h hother
    simp only [SameWay, huri] at hway
    obtain ⟨hfirst, rfl⟩ := Prod.mk.inj h
    obtain ⟨rfl, rfl⟩ := Prod.mk.inj hother
    have hplace : other.place reference = first.place reference :=
      (hresembles.place_eq reference).symm.trans hway
    cases hlanding : first.place reference with
    | error error =>
      rw [hlanding] at hfirst
      cases hfirst
    | ok place =>
      rw [hlanding] at hfirst
      cases hfirst
      refine ⟨⟨place, other.root, other.base⟩,
        by rw [hplace, hlanding]; rfl, rfl, rfl, ?_, ?_⟩
      · intro u catalog hu
        simp only [SameWay, huri] at hu ⊢
        rw [hu, hplace]
      · intro u
        simp only [behind, huri]
  | some uri =>
    simp only [View.destination, huri] at h hother
    simp only [SameWay, huri] at hway
    obtain ⟨hname, hnamed⟩ := hway
    have hbase : Uri.joinName other.base uri = Uri.joinName first.base uri := by
      rw [← hresembles.base, hname]
    cases hfetch : world.fetch (Loader.ofFunction f) (Uri.joinName first.base uri)
        reference.target with
    | mk fetched fetching =>
      rw [hfetch] at h
      cases fetched with
      | error error => cases h
      | ok document =>
        obtain ⟨hlocated, rfl⟩ := Prod.mk.inj h
        cases hlocate : document.locate reference.parts.fragment with
        | error error =>
          rw [hlocate] at hlocated
          cases hlocated
        | ok place =>
          rw [hlocate] at hlocated
          cases hlocated
          obtain ⟨asked, hagain⟩ := World.fetch_again hfetch hwithin hnamed
          rw [hbase, hagain] at hother
          simp only [hlocate, Except.map] at hother
          obtain ⟨rfl, rfl⟩ := Prod.mk.inj hother
          refine ⟨_, rfl, rfl, rfl, ?_, fun _ => rfl⟩
          intro u catalog hu
          simp only [SameWay, huri, hbase] at hu ⊢
          exact hu

end View

/-! ## Alike -/

/-- Tasks for the same documents. -/
inductive Task.Alike : Task → Task → Prop
  | node {a b : Node} (h : a.erase = b.erase) : Alike (.node a) (.node b)
  | nodes {as bs : List Node} (h : as.map Schema.erase = bs.map Schema.erase) :
    Alike (.nodes as) (.nodes bs)
  | link {as bs : Keywords NodeId} (h : eraseEntries as = eraseEntries bs) :
    Alike (.link as) (.link bs)
  | reference (r : Reference) : Alike (.reference r) (.reference r)

/-- Answers with the same documents. -/
inductive Answer.Alike : Answer → Answer → Prop
  | node {a b : Node} (h : a.erase = b.erase) : Alike (.node a) (.node b)
  | nodes {as bs : List Node} (h : as.map Schema.erase = bs.map Schema.erase) :
    Alike (.nodes as) (.nodes bs)
  | outcome {a b : Outcome} (h : a.erase = b.erase) : Alike (.outcome a) (.outcome b)

theorem Schema.eq_bool_of_erase {ι κ : Type} {value : Bool} {schema : Schema ι}
    (h : (Schema.bool value : Schema κ).erase = schema.erase) :
    schema = .bool value := by
  cases schema with
  | bool other =>
    rw [erase_bool, erase_bool] at h
    cases h
    rfl
  | object mark keywords =>
    rw [erase_bool, erase_object] at h
    cases h

theorem Schema.exists_object_of_erase {ι κ : Type} {mark : κ} {keywords : Keywords κ}
    {schema : Schema ι} (h : (Schema.object mark keywords).erase = schema.erase) :
    ∃ id others, schema = .object id others ∧
      eraseEntries keywords = eraseEntries others := by
  cases schema with
  | bool other =>
    rw [erase_bool, erase_object] at h
    cases h
  | object id others =>
    rw [erase_object, erase_object] at h
    injection h with _ h
    exact ⟨id, others, rfl, h⟩

theorem Task.Alike.applied {as bs : Keywords NodeId}
    (h : eraseEntries as = eraseEntries bs) :
    Task.Alike (.nodes (Keywords.applied as)) (.nodes (Keywords.applied bs)) := by
  refine .nodes ?_
  rw [← Keywords.applied_erase, ← Keywords.applied_erase, h]

theorem Keywords.reference?_eq_of_erase {as bs : Keywords NodeId}
    (h : eraseEntries as = eraseEntries bs) : reference? as = reference? bs := by
  rw [← reference?_erase, h, reference?_erase]

/-! ## Nothing remembered -/

namespace Memo

theorem recallNode_off {memo : Memo} (off : memo.enabled = false)
    {node result : Node} :
    (memo.recallNode node).1 ≠ some result := by
  simp [recallNode, off]

theorem recallTarget_off {memo : Memo} (off : memo.enabled = false)
    {reference : Reference} {base : Option String} {result : Node} :
    (memo.recallTarget reference base).1 ≠ some result := by
  simp [recallTarget, recallReference, off]

@[simp] theorem enabled_recallNode (memo : Memo) (node : Node) :
    (memo.recallNode node).2.enabled = memo.enabled := by
  obtain ⟨stats, h⟩ := memo.exists_recallNode node
  rw [h]

@[simp] theorem enabled_recallTarget (memo : Memo) (reference : Reference)
    (base : Option String) :
    (memo.recallTarget reference base).2.enabled = memo.enabled := by
  obtain ⟨stats, h⟩ := memo.exists_recallTarget reference base
  rw [h]

@[simp] theorem enabled_rememberNode (memo : Memo) (node result : Node) :
    (memo.rememberNode node result).enabled = memo.enabled := by
  obtain ⟨nodes, h⟩ := memo.exists_rememberNode node result
  rw [h]

@[simp] theorem enabled_rememberTarget (memo : Memo) (reference : Reference)
    (base : Option String) (result : Node) :
    (memo.rememberTarget reference base result).enabled = memo.enabled := by
  obtain ⟨references, h⟩ := memo.exists_rememberTarget reference base result
  rw [h]

end Memo

theorem State.enabled_route {state : State} {setup : Setup} {scope : Scope}
    {reference : Reference} {outcome : Except DerefError (Destination NodeId)}
    {run : Run} (route : reference.Arrives setup scope state.toRun outcome run) :
    (recordExpansion ⟨run, state.notes⟩).memo.enabled = state.memo.enabled := by
  show run.memo.enabled = state.memo.enabled
  rw [route.memo_eq]

/-- Whether results are remembered does not change on a walk. -/
theorem Walk.enabled_eq {setup : Setup} {Fair : Fairness} {hops : Nat}
    {scope : Scope} {task : Task} {state after : State}
    {result : Except DerefError Answer} {reach : Reach}
    (walk : Walk setup Fair hops scope task state result after reach) :
    after.memo.enabled = state.memo.enabled := by
  induction walk with
  | bool | nil | unreferring | circled | circular | tooDeep => rfl
  | recalled => exact Memo.enabled_recallNode ..
  | unlinked _ _ ih => exact ih
  | unfinished _ _ _ ihlink ihmembers => exact ihmembers.trans ihlink
  | concluded _ _ _ _ _ ihlink ihmembers =>
    exact (Memo.enabled_rememberNode ..).trans (ihmembers.trans ihlink)
  | headFailed _ ih => exact ih
  | tailFailed _ _ ihhead ihtail => exact ihtail.trans ihhead
  | cons _ _ ihhead ihtail => exact ihtail.trans ihhead
  | referring _ _ ih => exact ih
  | reused => exact Memo.enabled_recallTarget ..
  | lost _ _ route => exact congrArg Memo.enabled route.memo_eq
  | unexpanded _ _ route _ ih => exact ih.trans (State.enabled_route route)
  | expanded _ _ route _ ih =>
    exact (Memo.enabled_rememberTarget ..).trans
      (ih.trans (State.enabled_route route))

/-! ## States -/

/-- Two states with the same documents and the same kept references. -/
structure State.Matches (state other : State) : Prop where
  catalog : state.catalog.erase = other.catalog.erase
  edges : state.memo.edges = other.memo.edges

/-- A state that has all the documents and kept references of an earlier one. -/
structure State.Has (state earlier : State) : Prop where
  catalog : earlier.catalog.erase.Within state.catalog.erase
  edges : earlier.memo.edges ⊆ state.memo.edges
  sorted : state.memo.edges.Pairwise (· < ·)

namespace State

theorem Matches.refl (state : State) : state.Matches state := ⟨rfl, rfl⟩

theorem Matches.symm {state other : State}
    (h : state.Matches other) : other.Matches state :=
  ⟨h.catalog.symm, h.edges.symm⟩

theorem Matches.trans {a b c : State} (hab : a.Matches b)
    (hbc : b.Matches c) : a.Matches c :=
  ⟨hab.catalog.trans hbc.catalog, hab.edges.trans hbc.edges⟩

theorem Matches.noteNode {state other : State} (h : state.Matches other)
    (node result : Node) (reach : Reach) (next : NodeId) :
    ({ state with next }.noteNode node result reach).Matches other :=
  ⟨h.catalog, (Memo.edges_rememberNode ..).trans h.edges⟩

theorem Matches.noteReference {state other : State} (h : state.Matches other)
    (reference : Reference) (base : Option String) (result : Node) (reach : Reach) :
    (state.noteReference reference base result reach).Matches other :=
  ⟨h.catalog, (Memo.edges_rememberTarget ..).trans h.edges⟩

theorem Has.before {state earlier later : State} (h : state.Has later)
    (hgrows : earlier.Grows later) :
    state.Has earlier :=
  ⟨hgrows.catalog.trans h.catalog, fun _ hkey => h.edges (hgrows.edges hkey),
    h.sorted⟩

theorem Has.congr {state other earlier : State} (h : state.Has earlier)
    (hmatches : other.Matches state) :
    other.Has earlier := by
  obtain ⟨hcatalog, hedges⟩ := hmatches
  refine ⟨?_, ?_, ?_⟩
  · rw [hcatalog]
    exact h.catalog
  · rw [hedges]
    exact h.edges
  · rw [hedges]
    exact h.sorted

theorem Has.after {state later earlier : State} (h : state.Has earlier)
    (hgrows : state.Grows later) :
    later.Has earlier :=
  ⟨h.catalog.trans hgrows.catalog, fun _ hkey => hgrows.edges (h.edges hkey),
    hgrows.sorted h.sorted⟩

end State

/-! ## Agreement -/

section

variable {setup : Setup} {Fair : Fairness} {hops : Nat} {scope : Scope} {task : Task}
  {state after : State} {result : Except DerefError Answer} {reach : Reach}

/-- What a walk has in common with one that went the same way before, with this
answer and reach. -/
structure Agrees (answer : Answer) (reach : Reach) (before after : State)
    (again : Answer) (reach' : Reach) : Prop where
  alike : answer.Alike again
  same : after.Matches before
  reach : ∀ view catalog, reach view catalog → reach' view catalog

/-- That a walk within reach of this one agrees with it: where neither remembers
anything, it comes to the same answer, and adds nothing to a state that has what the
first left behind. -/
def Confirms (setup : Setup) (task : Task) (state : State)
    (result : Except DerefError Answer) (after : State) (reach : Reach) : Prop :=
  state.memo.enabled = false →
    ∀ ⦃Fair' hops' scope' task' before again after' reach' view⦄,
      Walk setup Fair' hops' scope' task' before (.ok again) after' reach' →
      before.memo.enabled = false → task.Alike task' →
      View.Resembles setup.settings.cyclePolicy.keepsEdges view scope'.view →
      reach view before.catalog.erase → before.Has after →
      ∃ answer, result = .ok answer ∧ Agrees answer reach before after' again reach'

namespace Confirms

variable {middle : State} {first second : Reach}

/-- Within reach of a failure nothing is. -/
theorem of_unreached : Confirms setup task state result after fun _ _ => False := by
  intro off Fair' hops' scope' task' before again after' reach' view _ _ _ _ hreach
  exact hreach.elim

/-! ### Lists of schemas -/

section

variable {node head : Node} {nodes tail : List Node}

theorem bool {value : Bool} :
    Confirms setup (.node (.bool value)) state (.ok (.node (.bool value))) state
      fun _ _ => True := by
  intro off Fair' hops' scope' task' before again after' reach' view walk'
    _ alike _ _ _
  cases alike with
  | node h =>
    cases Schema.eq_bool_of_erase h
    cases walk' with
    | bool => exact ⟨_, rfl, .node (by simp), .refl _, fun _ _ h => h⟩

theorem nil :
    Confirms setup (.nodes []) state (.ok (.nodes [])) state fun _ _ => True := by
  intro off Fair' hops' scope' task' before again after' reach' view walk'
    _ alike _ _ _
  cases alike with
  | nodes h =>
    cases List.map_eq_nil_iff.mp h.symm
    cases walk' with
    | nil => exact ⟨_, rfl, .nodes rfl, .refl _, fun _ _ h => h⟩

theorem cons (hhead : middle.memo.enabled = state.memo.enabled)
    (hgrows : middle.Grows after)
    (ihhead : Confirms setup (.node node) state (.ok (.node head)) middle first)
    (ihtail : Confirms setup (.nodes nodes) middle (.ok (.nodes tail)) after second) :
    Confirms setup (.nodes (node :: nodes)) state (.ok (.nodes (head :: tail))) after
      fun view catalog => first view catalog ∧ second view catalog := by
  intro off Fair' hops' scope' task' before again after' reach' view walk' off'
    alike hres hreach has
  cases alike with
  | nodes h =>
    obtain ⟨b, others, rfl, hb, hothers⟩ := List.map_eq_cons_iff.mp h.symm
    cases walk' with
    | cons head' tail' =>
      obtain ⟨_, hok, alike, same, hreach'⟩ :=
        ihhead off head' off' (.node hb.symm) hres hreach.1 (has.before hgrows)
      cases hok
      have hcatalog := same.catalog
      obtain ⟨_, hok, alikes, same', hreach''⟩ :=
        ihtail (hhead.trans off) tail' (head'.enabled_eq.trans off')
          (.nodes hothers.symm) hres (hcatalog.symm ▸ hreach.2) (has.congr same)
      cases hok
      cases alike with
      | node hnode =>
        cases alikes with
        | nodes hnodes =>
          refine ⟨_, rfl, .nodes ?_, same'.trans same, fun v c h => ⟨?_, ?_⟩⟩
          · rw [List.map_cons, List.map_cons, hnode, hnodes]
          · exact hreach' v c h.1
          · exact hreach'' v c h.2

end

/-! ### Objects -/

theorem concluded {id : NodeId} {keywords : Keywords NodeId} {outcome : Outcome}
    {results : List Node} {node : Node} {next : NodeId}
    (hlink : middle.memo.enabled = state.memo.enabled) (hgrows : middle.Grows after)
    (erase : node.erase = Document.concluded
      (Keywords.refill (eraseEntries keywords) (results.map Schema.erase))
      outcome.erase)
    (ihlink : Confirms setup (.link keywords) state (.ok (.outcome outcome))
      middle first)
    (ihmembers : Confirms setup (.nodes (Keywords.applied keywords)) middle
      (.ok (.nodes results)) after second) :
    Confirms setup (.node (.object id keywords)) state (.ok (.node node))
      ({ after with next }.noteNode (.object id keywords) node fun view catalog =>
        first (view.enter (eraseEntries keywords)) catalog ∧
          second (view.enter (eraseEntries keywords)) catalog)
      fun view catalog =>
        first (view.enter (eraseEntries keywords)) catalog ∧
          second (view.enter (eraseEntries keywords)) catalog := by
  intro off Fair' hops' scope' task' before again after' reach' view walk' off'
    alike hres hreach has
  cases alike with
  | node h =>
    obtain ⟨id', others, rfl, hkeywords⟩ := Schema.exists_object_of_erase h
    cases walk' with
    | recalled hit => exact absurd hit (Memo.recallNode_off off')
    | concluded fresh' link' members' conclude' erase' =>
      have hres' :=
        (scope'.view_enter id' others).symm ▸ hres.enter (eraseEntries others)
      rw [hkeywords] at hreach
      have hlast := has.before (State.grows_noteNode ..)
      obtain ⟨_, hok, alike, same, hreach'⟩ :=
        ihlink off link' off' (.link hkeywords) hres' hreach.1 (hlast.before hgrows)
      cases hok
      have hcatalog := same.catalog
      obtain ⟨_, hok, alikes, same', hreach''⟩ :=
        ihmembers (hlink.trans off) members' (link'.enabled_eq.trans off')
          (.applied hkeywords) hres' (hcatalog.symm ▸ hreach.2) (hlast.congr same)
      cases hok
      cases alike with
      | outcome houtcome =>
        cases alikes with
        | nodes hnodes =>
          refine ⟨_, rfl, .node ?_, ?_, fun v c h => ?_⟩
          · rw [erase, erase', hkeywords, houtcome, hnodes]
          · exact (same'.trans same).noteNode ..
          · rw [hkeywords] at h
            exact ⟨hreach' _ c h.1, hreach'' _ c h.2⟩

/-! ### References -/

section

variable {keywords : Keywords NodeId} {reference : Reference}

theorem unreferring (none : Keywords.reference? keywords = none) :
    Confirms setup (.link keywords) state (.ok (.outcome .kept)) state
      fun _ _ => True := by
  intro off Fair' hops' scope' task' before again after' reach' view walk'
    _ alike _ _ _
  cases alike with
  | link h =>
    cases walk' with
    | unreferring => exact ⟨_, rfl, .outcome rfl, .refl _, fun _ _ h => h⟩
    | referring some =>
      rw [← Keywords.reference?_eq_of_erase h, none] at some
      cases some

theorem referring (some : Keywords.reference? keywords = some reference)
    (ih : Confirms setup (.reference reference.effective)
      (state.warned keywords reference.kind) result after reach) :
    Confirms setup (.link keywords) state result after reach := by
  intro off Fair' hops' scope' task' before again after' reach' view walk' off'
    alike hres hreach has
  cases alike with
  | link h =>
    cases walk' with
    | unreferring none =>
      rw [← Keywords.reference?_eq_of_erase h, some] at none
      cases none
    | referring some' follow' =>
      rw [← Keywords.reference?_eq_of_erase h, some, Option.some.injEq] at some'
      subst some'
      obtain ⟨answer, hanswer, alike, same, hreach'⟩ :=
        ih off follow' off' (.reference _) hres hreach
          ⟨has.catalog, has.edges, has.sorted⟩
      exact ⟨answer, hanswer, alike, same.trans ⟨rfl, rfl⟩, hreach'⟩

/-- Where references are kept the two views are one, with all that is in flight. -/
theorem circled (keeps : setup.settings.cyclePolicy.keepsEdges = true) :
    Confirms setup (.reference reference) state (.ok (.outcome .kept))
      (state.recordEdge (reference.key scope.base))
      fun view _ => view.circles reference = true ∧
        reference.key view.base = reference.key scope.base := by
  intro off Fair' hops' scope' task' before again after' reach' view walk' off'
    alike hres hreach has
  cases alike
  obtain ⟨hcircles, hkey⟩ := hreach
  cases hres.eq_of_keeps keeps
  cases walk' with
  | reused hit => exact absurd hit (Memo.recallTarget_off off')
  | circled =>
    refine ⟨_, rfl, .outcome rfl, ⟨rfl, ?_⟩, fun v c h => ⟨h.1, h.2.trans hkey.symm⟩⟩
    -- the first walk has recorded this key
    refine Memo.insertKey_of_mem has.sorted (has.edges ?_)
    exact Memo.mem_insertKey.mpr (.inl hkey)
  | expanded _ straight =>
    rw [hcircles] at straight
    cases straight

theorem expanded {f : String → Reply} (hloader : setup.loader = Loader.ofFunction f)
    {destination : Destination NodeId} {run : Run} {node : Node}
    (route : reference.Arrives setup scope state.toRun (.ok destination) run)
    (hgrows : (State.recordExpansion ⟨run, state.notes⟩).Grows after)
    (ih : Confirms setup (.node destination.place)
      (State.recordExpansion ⟨run, state.notes⟩) (.ok (.node node)) after reach) :
    Confirms setup (.reference reference) state (.ok (.outcome (.target node)))
      (after.noteReference reference scope.base node fun view catalog =>
        view.circles reference = false ∧
          view.SameWay scope.view catalog reference destination.erase ∧
          reach (view.behind reference destination.erase) catalog)
      fun view catalog =>
        view.circles reference = false ∧
          view.SameWay scope.view catalog reference destination.erase ∧
          reach (view.behind reference destination.erase) catalog := by
  intro off Fair' hops' scope' task' before again after' reach' view walk' off'
    alike hres hreach has
  cases alike
  obtain ⟨hcircles, hway, hreach⟩ := hreach
  cases walk' with
  | reused hit => exact absurd hit (Memo.recallTarget_off off')
  | circled _ circular keeps =>
    -- a circle here would have been one on the first walk
    cases hres.eq_of_keeps keeps
    simp only [View.circles, Bool.or_eq_false_iff] at hcircles
    rcases circular with honpath | ⟨_, hself⟩
    · exact Bool.noConfusion (honpath.symm.trans hcircles.1)
    · exact Bool.noConfusion (hself.symm.trans hcircles.2)
  | @expanded _ _ _ _ destination' run' _ _ _ _ straight' route' target' =>
    have hlast := has.before (State.grows_noteReference ..)
    have hbegun := hlast.before ((State.grows_recordExpansion _).trans hgrows)
    have hfirst := route.erase_eq
    have hsecond := route'.erase_eq
    rw [hloader] at hfirst hsecond
    obtain ⟨_, hagain, hcatalog, hrepeats⟩ :=
      View.destination_again hfirst hsecond hway hres hbegun.catalog
    cases hagain
    have hsame : (State.recordExpansion ⟨run', before.notes⟩).Matches before :=
      ⟨hcatalog, State.edges_route route'⟩
    have hres' : (view.behind reference destination'.erase).Resembles
        setup.settings.cyclePolicy.keepsEdges
        (scope'.descend (reference.key scope'.base) destination'.root
          destination'.base).view := by
      rw [scope'.view_descend, ← scope'.view_base]
      exact View.behind_eq_descend hsecond ▸ hres.behind reference destination'.erase
    rw [hrepeats.behind, ← hsame.catalog] at hreach
    obtain ⟨_, htarget, alike, same, hreach'⟩ :=
      ih ((State.enabled_route route).trans off) target'
        ((State.enabled_route route').trans off') (.node hrepeats.place.symm) hres'
        hreach (hlast.congr hsame)
    cases htarget
    cases alike with
    | node hnode =>
      refine ⟨_, rfl, .outcome ?_, (same.trans hsame).noteReference ..,
        fun v c h => ?_⟩
      · rw [Outcome.erase, Outcome.erase, hnode]
      · refine ⟨h.1, hrepeats.sameWay v c h.2.1, ?_⟩
        rw [← hrepeats.behind]
        exact hreach' _ c h.2.2

end

end Confirms

/-- Of two walks that remember nothing, the second within reach of the first: the
second has to follow the same rules, since its steps are within reach. -/
theorem Walk.agrees {f : String → Reply}
    (hloader : setup.loader = Loader.ofFunction f)
    (walk : Walk setup Fair hops scope task state result after reach) :
    Confirms setup task state result after reach := by
  induction walk with
  | unlinked | unfinished | headFailed | tailFailed | circular | tooDeep | lost
  | unexpanded =>
    exact .of_unreached
  | recalled hit => exact fun off => absurd hit (Memo.recallNode_off off)
  | reused hit => exact fun off => absurd hit (Memo.recallTarget_off off)
  | bool => exact .bool
  | nil => exact .nil
  | cons head tail ihhead ihtail =>
    exact .cons head.enabled_eq tail.grows ihhead ihtail
  | concluded _ link members _ erase ihlink ihmembers =>
    exact .concluded link.enabled_eq members.grows erase ihlink ihmembers
  | unreferring none => exact .unreferring none
  | referring some _ ih => exact .referring some ih
  | circled _ _ keeps => exact .circled keeps
  | expanded _ _ route target ih => exact .expanded hloader route target.grows ih

end

end SchemaDeref
