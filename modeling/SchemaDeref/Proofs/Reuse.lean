import SchemaDeref.Proofs.Agreement
import SchemaDeref.Proofs.Fairness

/-!
# Remembering results

A call that remembers results beside the same call that does not. They come to the
same schema and the same kept references if every remembered result is used only
where its steps would be the same (`Walk.simulates`). This has to be asked: results
are remembered by the identity of a node, or by base and reference, and neither says
what is in flight, which document is around, or which anchors are. Where no circular
reference is met it need not be asked (`Setup.reuses_of_circles`).
-/

namespace SchemaDeref

/-- The same setup, with or without remembered results. -/
def Setup.caching (setup : Setup) (useCache : Bool) : Setup :=
  { setup with settings := { setup.settings with useCache } }

/-- A call on a document of its own. -/
def Document.dereference (setup : Setup) (document : Document) : Completed :=
  SchemaDeref.dereference setup (Session.empty.mint document).2
    (Session.empty.mint document).1

/-- A setup that knows no other documents. -/
def Setup.alone (policy : CyclePolicy) (useCache : Bool) : Setup :=
  ⟨{ cyclePolicy := policy, useCache }, .none⟩

namespace Fairness

/-- What has to be asked of a use of a result: where circular references are
failures it does not matter what is in flight. -/
def Suffices (Fair : Fairness) (policy : CyclePolicy) : Prop :=
  ∀ reach view catalog, Fair reach view catalog →
    ∃ other : View, other.Resembles policy.keepsEdges view ∧ reach other catalog

theorem sameSteps_suffices (policy : CyclePolicy) : sameSteps.Suffices policy :=
  fun _ view _ h => ⟨view, .refl view, h⟩

theorem sameWays_suffices {policy : CyclePolicy} (h : policy.keepsEdges = false) :
    sameWays.Suffices policy := by
  intro reach view catalog hreach
  refine ⟨{ view with path := [] }, ⟨rfl, rfl, rfl, rfl, fun hkeeps => ?_⟩, hreach⟩
  rw [h] at hkeeps
  cases hkeeps

end Fairness

/-! ## Fixed loaders -/

namespace Loader

variable {f : String → Reply} {world other : World}

theorem fetch_ofFunction (name target : String) (h : world.catalog = other.catalog) :
    (world.fetch (ofFunction f) name target).1 =
      (other.fetch (ofFunction f) name target).1 ∧
      (world.fetch (ofFunction f) name target).2.catalog =
        (other.fetch (ofFunction f) name target).2.catalog := by
  simp only [World.fetch, ofFunction, h]
  cases other.catalog.get? name with
  | some document => exact ⟨rfl, h⟩
  | none => cases f name <;> exact ⟨rfl, by simp⟩

/-- With a loader that does not change its answers it does not matter what was asked
before. -/
theorem destination_ofFunction (view : View) (reference : Reference)
    (h : world.catalog = other.catalog) :
    (view.destination (ofFunction f) reference world).1 =
        (view.destination (ofFunction f) reference other).1 ∧
      (view.destination (ofFunction f) reference world).2.catalog =
        (view.destination (ofFunction f) reference other).2.catalog := by
  simp only [View.destination]
  cases reference.parts.uri with
  | none => exact ⟨rfl, h⟩
  | some uri =>
    obtain ⟨hresult, hcatalog⟩ :=
      fetch_ofFunction (f := f) (Uri.joinName view.base uri) reference.target h
    dsimp only
    cases hfetch : world.fetch (ofFunction f) (Uri.joinName view.base uri)
      reference.target with
    | mk fetched after =>
      cases hfetch' : other.fetch (ofFunction f) (Uri.joinName view.base uri)
        reference.target with
      | mk fetched' after' =>
        rw [hfetch, hfetch'] at hresult hcatalog
        cases hresult
        cases fetched with
        | error error => exact ⟨rfl, hcatalog⟩
        | ok document => exact ⟨rfl, hcatalog⟩

end Loader

/-! ## Notes and what stands behind them -/

theorem Task.Alike.trans {a b c : Task} (hab : a.Alike b) (hbc : b.Alike c) :
    a.Alike c := by
  cases hab with
  | node h => cases hbc with | node h' => exact .node (h.trans h')
  | nodes h => cases hbc with | nodes h' => exact .nodes (h.trans h')
  | link h => cases hbc with | link h' => exact .link (h.trans h')
  | reference r => exact hbc

theorem Answer.Alike.trans {a b c : Answer} (hab : a.Alike b) (hbc : b.Alike c) :
    a.Alike c := by
  cases hab with
  | node h => cases hbc with | node h' => exact .node (h.trans h')
  | nodes h => cases hbc with | nodes h' => exact .nodes (h.trans h')
  | outcome h => cases hbc with | outcome h' => exact .outcome (h.trans h')

def Mark.answer : Mark → Node → Answer
  | .node _, result => .node result
  | .reference _ _, result => .outcome (.target result)

/-- A walk that remembers nothing stands behind a note: it has led to the same
result, and its steps are the same wherever the note says so. -/
def Note.Backed (setup : Setup) (plain : State) (note : Note) : Prop :=
  ∃ hops scope task before answer after reach,
    FreeWalk setup hops scope task before (.ok answer) after reach ∧
      before.memo.enabled = false ∧
      task.Alike note.mark.task ∧ (note.mark.answer note.result).Alike answer ∧
        plain.Has after ∧
      ∀ view catalog, note.reach view catalog → reach view catalog

/-- A state of a call that remembers results, beside the one of a call that does not. -/
structure State.Tracks (setup : Setup) (state plain : State) : Prop where
  same : state.Matches plain
  sorted : plain.memo.edges.Pairwise (· < ·)
  off : plain.memo.enabled = false
  backed : ∀ note ∈ state.notes, note.Backed setup plain

theorem State.Tracks.step {setup : Setup} {state plain after after' : State}
    (h : state.Tracks setup plain) (same : after.Matches after')
    (hgrows : plain.Grows after') (off : after'.memo.enabled = false)
    (hnotes : ∀ note ∈ after.notes, note ∈ state.notes ∨ note.Backed setup after') :
    after.Tracks setup after' where
  same := same
  sorted := hgrows.sorted h.sorted
  off := off
  backed note hnote := by
    rcases hnotes note hnote with hold | hnew
    · obtain ⟨hops, scope, task, before, answer, last, reach, walk, hoff, htask,
        hanswer, has, hreach⟩ :=
        h.backed note hold
      exact ⟨hops, scope, task, before, answer, last, reach, walk, hoff,
        htask, hanswer, has.after hgrows, hreach⟩
    · exact hnew

theorem State.Tracks.noteNode {setup : Setup} {state plain : State}
    (h : state.Tracks setup plain) {node result node' result' : Node}
    {reach reach' : Reach} {next next' : NodeId}
    (hbacked : Note.Backed setup ({ plain with next := next' }.noteNode node'
      result' reach')
      ⟨.node node, result, reach⟩) :
    ({ state with next }.noteNode node result reach).Tracks setup
      ({ plain with next := next' }.noteNode node' result' reach') := by
  refine h.step ?_ (State.grows_noteNode ..)
    ((Memo.enabled_rememberNode ..).trans h.off) ?_
  · exact (h.same.noteNode ..).trans ((Matches.refl plain).noteNode ..).symm
  · intro note hnote
    rcases List.mem_cons.mp hnote with rfl | hnote
    · exact .inr hbacked
    · exact .inl hnote

theorem State.Tracks.noteReference {setup : Setup} {state plain : State}
    (h : state.Tracks setup plain) {reference : Reference}
    {base base' : Option String} {result result' : Node} {reach reach' : Reach}
    (hbacked : reference.kind = .static →
      Note.Backed setup (plain.noteReference reference base' result' reach')
        ⟨.reference (base.getD "") reference.target, result, reach⟩) :
    (state.noteReference reference base result reach).Tracks setup
      (plain.noteReference reference base' result' reach') := by
  refine h.step ?_ (State.grows_noteReference ..)
    ((Memo.enabled_rememberTarget ..).trans h.off) ?_
  · exact (h.same.noteReference ..).trans ((Matches.refl plain).noteReference ..).symm
  · intro note hnote
    simp only [State.noteReference] at hnote
    split at hnote
    · rename_i hkind
      rcases List.mem_cons.mp hnote with rfl | hnote
      · exact .inr (hbacked hkind)
      · exact .inl hnote
    · exact .inl hnote

variable {setup : Setup} {f : String → Reply} {hops : Nat} {scope scope' : Scope}
  {task task' : Task} {state after plain after' : State}
  {result : Except DerefError Answer} {answer : Answer} {reach reach' : Reach}

/-- A walk stands behind a note on its own result. -/
theorem Walk.backs {note : Note}
    (walk : FreeWalk setup hops scope task state (.ok answer) after reach)
    (off : state.memo.enabled = false) (sorted : state.memo.edges.Pairwise (· < ·))
    (htask : task.Alike note.mark.task)
    (hanswer : (note.mark.answer note.result).Alike answer)
    (hreach : ∀ view catalog, note.reach view catalog → reach view catalog) :
    note.Backed setup after :=
  ⟨hops, scope, task, state, answer, after, reach, walk, off, htask, hanswer,
    ⟨.refl _, List.Subset.refl _, walk.grows.sorted sorted⟩, hreach⟩

/-- Where a note is used fairly, a walk that remembers nothing comes to what it says. -/
theorem Note.Backed.agrees (hloader : setup.loader = Loader.ofFunction f)
    {note : Note} (h : note.Backed setup plain)
    (walk : FreeWalk setup hops scope task plain (.ok answer) after reach)
    (off : plain.memo.enabled = false) (htask : note.mark.task.Alike task)
    {other : View}
    (hother : other.Resembles setup.settings.cyclePolicy.keepsEdges scope.view)
    (hfair : note.reach other plain.catalog.erase) :
    Agrees (note.mark.answer note.result) note.reach plain after answer reach := by
  obtain ⟨hops', scope', task', before, answer', last, reach', walk', hoff, htask',
    hanswer, has, hreach⟩ := h
  obtain ⟨_, hok, alike, same, hreach'⟩ :=
    walk'.agrees hloader hoff walk off (htask'.trans htask)
    hother (hreach _ _ hfair) has
  cases hok
  exact ⟨hanswer.trans alike, same, fun view catalog h =>
    hreach' view catalog (hreach view catalog h)⟩

/-! ## Simulation -/

theorem View.not_circular {reference : Reference}
    (straight : scope.view.circles reference = false) :
    ¬ (scope.onPath (reference.key scope.base) = true ∨
      0 < hops ∧ reference.isSelf scope.view = true) := by
  intro h
  rw [circles_of_circular h] at straight
  cases straight

theorem Scope.view_enter_congr (h : scope.view = scope'.view)
    {keywords others : Keywords NodeId}
    (hkeywords : eraseEntries keywords = eraseEntries others) (id id' : NodeId) :
    (scope.enter id keywords).view = (scope'.enter id' others).view := by
  rw [scope.view_enter, scope'.view_enter, h, hkeywords]

theorem Scope.view_descend_congr (h : scope.view = scope'.view)
    {destination destination' : Destination NodeId}
    (hd : destination.erase = destination'.erase) (reference : Reference) :
    destination.place.erase = destination'.place.erase ∧
      (scope.descend (reference.key scope.base) destination.root
        destination.base).view =
        (scope'.descend (reference.key scope'.base) destination'.root
          destination'.base).view := by
  simp only [Destination.erase, Destination.mk.injEq] at hd
  obtain ⟨hplace, hroot, hbase⟩ := hd
  refine ⟨hplace, ?_⟩
  rw [scope.view_descend, scope'.view_descend, h, hroot, hbase, ← scope.view_base,
    h, scope'.view_base]

/-- With a loader that does not change its answers, two ways from one view lead to
one place. -/
theorem Reference.Arrives.agrees {other : Setup} {reference : Reference}
    {run run' last last' : Run}
    {outcome outcome' : Except DerefError (Destination NodeId)}
    (route : reference.Arrives setup scope run outcome last)
    (route' : reference.Arrives other scope' run' outcome' last')
    (hloader : setup.loader = Loader.ofFunction f)
    (hloader' : other.loader = Loader.ofFunction f)
    (hview : scope.view = scope'.view)
    (hcatalog : run.catalog.erase = run'.catalog.erase) :
    outcome.map Destination.erase = outcome'.map Destination.erase ∧
      last.catalog.erase = last'.catalog.erase := by
  have h := route.erase_eq
  have h' := route'.erase_eq
  have hworld : run.world.catalog = run'.world.catalog := hcatalog
  rw [hloader, hview] at h
  rw [hloader'] at h'
  obtain ⟨houtcome, hlast⟩ :=
    Loader.destination_ofFunction (f := f) scope'.view reference hworld
  rw [h, h'] at houtcome hlast
  exact ⟨houtcome, hlast⟩

theorem State.Tracks.route (h : state.Tracks (setup.caching false) plain)
    (hloader : setup.loader = Loader.ofFunction f) (hview : scope.view = scope'.view)
    {reference : Reference} {destination destination' : Destination NodeId}
    {run run' : Run}
    (route : reference.Arrives (setup.caching true) scope state.toRun
      (.ok destination) run) (route' :
        reference.Arrives (setup.caching false) scope' plain.toRun
          (.ok destination') run') :
    destination.erase = destination'.erase ∧
      (recordExpansion ⟨run, state.notes⟩).Tracks (setup.caching false)
        (recordExpansion ⟨run', plain.notes⟩) := by
  obtain ⟨houtcome, hcatalog⟩ :=
    route.agrees route' hloader hloader hview h.same.catalog
  refine ⟨Except.ok.inj houtcome, h.step ⟨hcatalog, ?_⟩ ?_ ?_
    fun note hnote => .inl hnote⟩
  · rw [edges_route route, edges_route route', h.same.edges]
  · exact (State.grows_route _ route').trans (State.grows_recordExpansion _)
  · rw [enabled_route route', h.off]

/-- That beside a walk which remembers nothing and succeeds, this one succeeds with
the same answer, and goes the same way no further. -/
def Simulates (setup : Setup) (hops : Nat) (scope : Scope) (task : Task)
    (state : State) (result : Except DerefError Answer) (after : State)
    (reach : Reach) : Prop :=
  ∀ ⦃scope' task' plain answer after' reach'⦄,
    FreeWalk (setup.caching false) hops scope' task' plain (.ok answer)
      after' reach' →
    scope.view = scope'.view → task.Alike task' →
      state.Tracks (setup.caching false) plain →
    ∃ got, result = .ok got ∧ got.Alike answer ∧
      after.Tracks (setup.caching false) after' ∧
      ∀ view catalog, reach view catalog → reach' view catalog

namespace Simulates

variable {middle : State} {error : DerefError} {rest : Reach}

/-! ### Lists of schemas -/

section

variable {node : Node} {nodes : List Node} {head : Node} {tail : List Node}

theorem bool {value : Bool} :
    Simulates setup hops scope (.node (.bool value)) state
      (.ok (.node (.bool value))) state fun _ _ => True := by
  intro scope' task' plain answer after' reach' walk' hview alike tracks
  cases alike with
  | node h =>
    cases Schema.eq_bool_of_erase h
    cases walk' with
    | bool => exact ⟨_, rfl, .node (by simp), tracks, fun _ _ h => h⟩

theorem nil :
    Simulates setup hops scope (.nodes []) state (.ok (.nodes [])) state
      fun _ _ => True := by
  intro scope' task' plain answer after' reach' walk' hview alike tracks
  cases alike with
  | nodes h =>
    cases List.map_eq_nil_iff.mp h.symm
    cases walk' with
    | nil => exact ⟨_, rfl, .nodes rfl, tracks, fun _ _ h => h⟩

theorem headFailed
    (ih : Simulates setup hops scope (.node node) state (.error error) after reach) :
    Simulates setup hops scope (.nodes (node :: nodes)) state (.error error)
      after rest := by
  intro scope' task' plain answer after' reach' walk' hview alike tracks
  cases alike with
  | nodes h =>
    obtain ⟨b, others, rfl, hb, _⟩ := List.map_eq_cons_iff.mp h.symm
    cases walk' with
    | cons head' tail' =>
      obtain ⟨_, hok, _⟩ := ih head' hview (.node hb.symm) tracks
      cases hok

theorem tailFailed
    (ihhead : Simulates setup hops scope (.node node) state
      (.ok (.node head)) middle reach)
    (ihtail : Simulates setup hops scope (.nodes nodes) middle
      (.error error) after reach') :
    Simulates setup hops scope (.nodes (node :: nodes)) state (.error error)
      after rest := by
  intro scope' task' plain answer after' reach' walk' hview alike tracks
  cases alike with
  | nodes h =>
    obtain ⟨b, others, rfl, hb, hothers⟩ := List.map_eq_cons_iff.mp h.symm
    cases walk' with
    | cons head' tail' =>
      obtain ⟨_, hhead, _, tracks', _⟩ := ihhead head' hview (.node hb.symm) tracks
      obtain ⟨_, hok, _⟩ := ihtail tail' hview (.nodes hothers.symm) tracks'
      cases hok

theorem cons
    (ihhead : Simulates setup hops scope (.node node) state
      (.ok (.node head)) middle reach)
    (ihtail : Simulates setup hops scope (.nodes nodes) middle
      (.ok (.nodes tail)) after rest) :
    Simulates setup hops scope (.nodes (node :: nodes)) state
      (.ok (.nodes (head :: tail))) after fun view catalog => reach view catalog ∧
        rest view catalog := by
  intro scope' task' plain answer after' reach' walk' hview alike tracks
  cases alike with
  | nodes h =>
    obtain ⟨b, others, rfl, hb, hothers⟩ := List.map_eq_cons_iff.mp h.symm
    cases walk' with
    | cons head' tail' =>
      obtain ⟨_, hhead, alike, tracks', hreach⟩ :=
        ihhead head' hview (.node hb.symm) tracks
      cases hhead
      obtain ⟨_, htail, alikes, tracks'', hreach'⟩ :=
        ihtail tail' hview (.nodes hothers.symm) tracks'
      cases htail
      cases alike with
      | node hnode =>
        cases alikes with
        | nodes hnodes =>
          refine ⟨_, rfl, .nodes ?_, tracks'', fun v c h =>
            ⟨hreach v c h.1, hreach' v c h.2⟩⟩
          rw [List.map_cons, List.map_cons, hnode, hnodes]

end

/-! ### Objects -/

section

variable {id : NodeId} {keywords : Keywords NodeId} {outcome : Outcome}
  {results : List Node} {node : Node} {next : NodeId}

/-- The walk behind the note and the plain one agree, so the remembered result is
right. -/
theorem recalled (hloader : setup.loader = Loader.ofFunction f) {Fair : Fairness}
    (hfair : Fair.Suffices setup.settings.cyclePolicy) {note : Note}
    (noted : note ∈ state.notes) (mark : note.mark = .node (.object id keywords))
    (fair : Fair note.reach scope.view state.catalog.erase) :
    Simulates setup hops scope (.node (.object id keywords)) state
      (.ok (.node note.result)) (state.lookNode (.object id keywords))
      note.reach := by
  intro scope' task' plain answer after' reach' walk' hview alike tracks
  obtain ⟨other, hother, hreach⟩ := hfair _ _ _ fair
  rw [hview] at hother
  rw [tracks.same.catalog] at hreach
  rw [← show note.mark.task = .node (.object id keywords) by rw [mark]; rfl] at alike
  have hplain : (setup.caching false).loader = Loader.ofFunction f := hloader
  have h := (tracks.backed note noted).agrees hplain walk' tracks.off alike
      hother hreach
  refine ⟨_, rfl, ?_, tracks.step ?_ walk'.grows (walk'.enabled_eq.trans tracks.off)
    ?_, h.reach⟩
  · have halike := h.alike
    rw [mark] at halike
    exact halike
  · have hlook : (state.lookNode (.object id keywords)).Matches state :=
      ⟨rfl, Memo.edges_recallNode ..⟩
    exact (hlook.trans tracks.same).trans h.same.symm
  · exact fun note hnote => .inl hnote

theorem unlinked
    (ih : Simulates setup hops (scope.enter id keywords) (.link keywords) state
      (.error error) after reach) :
    Simulates setup hops scope (.node (.object id keywords)) state (.error error)
      after rest := by
  intro scope' task' plain answer after' reach' walk' hview alike tracks
  cases alike with
  | node h =>
    obtain ⟨id', others, rfl, hkeywords⟩ := Schema.exists_object_of_erase h
    have hinner := Scope.view_enter_congr hview hkeywords id id'
    cases walk' with
    | recalled hit => exact absurd hit (Memo.recallNode_off tracks.off)
    | concluded fresh' link' members' conclude' erase' =>
      obtain ⟨_, hok, _⟩ := ih link' hinner (.link hkeywords) tracks
      cases hok

theorem unfinished
    (ihlink : Simulates setup hops (scope.enter id keywords) (.link keywords) state
      (.ok (.outcome outcome)) middle reach)
    (ihmembers : Simulates setup hops (scope.enter id keywords)
      (.nodes (Keywords.applied keywords)) middle (.error error) after reach') :
    Simulates setup hops scope (.node (.object id keywords)) state (.error error)
      after rest := by
  intro scope' task' plain answer after' reach' walk' hview alike tracks
  cases alike with
  | node h =>
    obtain ⟨id', others, rfl, hkeywords⟩ := Schema.exists_object_of_erase h
    have hinner := Scope.view_enter_congr hview hkeywords id id'
    cases walk' with
    | recalled hit => exact absurd hit (Memo.recallNode_off tracks.off)
    | concluded fresh' link' members' conclude' erase' =>
      obtain ⟨_, _, _, tracks', _⟩ := ihlink link' hinner (.link hkeywords) tracks
      obtain ⟨_, hok, _⟩ := ihmembers members' hinner (.applied hkeywords) tracks'
      cases hok

/-- The plain walk as a whole stands behind the new note. -/
theorem concluded
    (erase : node.erase = Document.concluded
      (Keywords.refill (eraseEntries keywords) (results.map Schema.erase))
      outcome.erase)
    (ihlink : Simulates setup hops (scope.enter id keywords) (.link keywords) state
      (.ok (.outcome outcome)) middle reach)
    (ihmembers : Simulates setup hops (scope.enter id keywords)
      (.nodes (Keywords.applied keywords)) middle (.ok (.nodes results)) after rest) :
    Simulates setup hops scope (.node (.object id keywords)) state (.ok (.node node))
      ({ after with next }.noteNode (.object id keywords) node fun view catalog =>
        reach (view.enter (eraseEntries keywords)) catalog ∧
          rest (view.enter (eraseEntries keywords)) catalog)
      fun view catalog =>
        reach (view.enter (eraseEntries keywords)) catalog ∧
          rest (view.enter (eraseEntries keywords)) catalog := by
  intro scope' task' plain answer after' reach' walk' hview alike tracks
  cases alike with
  | node h =>
    obtain ⟨id', others, rfl, hkeywords⟩ := Schema.exists_object_of_erase h
    have hinner := Scope.view_enter_congr hview hkeywords id id'
    have hwhole := walk'
    cases walk' with
    | recalled hit => exact absurd hit (Memo.recallNode_off tracks.off)
    | @concluded _ _ _ _ _ _ _ _ _ result' _ first' rest' fresh' link' members'
      conclude' erase' =>
      obtain ⟨_, hlink, alike, tracks', hreach⟩ :=
        ihlink link' hinner (.link hkeywords) tracks
      cases hlink
      obtain ⟨_, hmembers, alikes, tracks'', hreach'⟩ :=
        ihmembers members' hinner (.applied hkeywords) tracks'
      cases hmembers
      cases alike with
      | outcome houtcome =>
        cases alikes with
        | nodes hnodes =>
          have hresult : (Answer.node node).Alike (.node result') := by
            refine .node ?_
            rw [erase, erase', hkeywords, houtcome, hnodes]
          have hreaches : ∀ (view : View) (catalog : Catalog Unit),
              reach (view.enter (eraseEntries others)) catalog ∧
                  rest (view.enter (eraseEntries others)) catalog →
                first' (view.enter (eraseEntries others)) catalog ∧
                  rest' (view.enter (eraseEntries others)) catalog :=
            fun _ catalog h => ⟨hreach _ catalog h.1, hreach' _ catalog h.2⟩
          rw [hkeywords]
          exact ⟨_, rfl, hresult,
            tracks''.noteNode
              (hwhole.backs tracks.off tracks.sorted (.node h.symm) hresult hreaches),
            hreaches⟩

end

/-! ### Links -/

section

variable {keywords : Keywords NodeId} {reference : Reference}

theorem unreferring (none : Keywords.reference? keywords = none) :
    Simulates setup hops scope (.link keywords) state (.ok (.outcome .kept)) state
      fun _ _ => True := by
  intro scope' task' plain answer after' reach' walk' hview alike tracks
  cases alike with
  | link h =>
    cases walk' with
    | unreferring => exact ⟨_, rfl, .outcome rfl, tracks, fun _ _ h => h⟩
    | referring some =>
      rw [← Keywords.reference?_eq_of_erase h, none] at some
      cases some

theorem referring (some : Keywords.reference? keywords = some reference)
    (ih : Simulates setup hops scope (.reference reference.effective)
      (state.warned keywords reference.kind) result after reach) :
    Simulates setup hops scope (.link keywords) state result after reach := by
  intro scope' task' plain answer after' reach' walk' hview alike tracks
  cases alike with
  | link h =>
    cases walk' with
    | unreferring none =>
      rw [← Keywords.reference?_eq_of_erase h, some] at none
      cases none
    | referring some' follow' =>
      rw [← Keywords.reference?_eq_of_erase h, some, Option.some.injEq] at some'
      subst some'
      refine ih follow' hview (.reference _) ?_
      exact tracks.step ⟨tracks.same.catalog, tracks.same.edges⟩
        (State.grows_warned ..) tracks.off fun note hnote => .inl hnote

end

/-! ### References -/

section

variable {reference : Reference} {run : Run} {destination : Destination NodeId}
  {node : Node}

theorem reused (hloader : setup.loader = Loader.ofFunction f) {Fair : Fairness}
    (hfair : Fair.Suffices setup.settings.cyclePolicy) {note : Note}
    (static : reference.kind = .static) (noted : note ∈ state.notes)
    (mark : note.mark = .reference (scope.base.getD "") reference.target)
    (fair : Fair note.reach scope.view state.catalog.erase) :
    Simulates setup hops scope (.reference reference) state
      (.ok (.outcome (.target note.result)))
      (state.lookReference reference scope.base) note.reach := by
  intro scope' task' plain answer after' reach' walk' hview alike tracks
  obtain ⟨other, hother, hreach⟩ := hfair _ _ _ fair
  rw [hview] at hother
  rw [tracks.same.catalog] at hreach
  have htask : note.mark.task = .reference reference := by
    rw [mark, Mark.task, ← static]
  rw [← htask] at alike
  have hplain : (setup.caching false).loader = Loader.ofFunction f := hloader
  have h := (tracks.backed note noted).agrees hplain walk' tracks.off alike
      hother hreach
  refine ⟨_, rfl, ?_, tracks.step ?_ walk'.grows (walk'.enabled_eq.trans tracks.off)
    ?_, h.reach⟩
  · have halike := h.alike
    rw [mark] at halike
    exact halike
  · have hlook : (state.lookReference reference scope.base).Matches state :=
      ⟨rfl, Memo.edges_recallTarget ..⟩
    exact (hlook.trans tracks.same).trans h.same.symm
  · exact fun note hnote => .inl hnote

theorem circled
    (circular : scope.onPath (reference.key scope.base) = true ∨
      0 < hops ∧ reference.isSelf scope.view = true) :
    Simulates setup hops scope (.reference reference) state (.ok (.outcome .kept))
      (state.recordEdge (reference.key scope.base))
      fun view _ => view.circles reference = true ∧
        reference.key view.base = reference.key scope.base := by
  intro scope' task' plain answer after' reach' walk' hview alike tracks
  cases alike
  have hcircles : scope'.view.circles reference = true := by
    rw [← hview]
    exact View.circles_of_circular circular
  have hbase : scope.base = scope'.base := congrArg View.base hview
  cases walk' with
  | reused hit => exact absurd hit (Memo.recallTarget_off tracks.off)
  | circled =>
    rw [hbase]
    refine ⟨_, rfl, .outcome rfl, tracks.step ⟨tracks.same.catalog, ?_⟩
      (State.grows_recordEdge ..) tracks.off fun note hnote => .inl
      hnote, fun v c h => h⟩
    exact congrArg (Memo.insertKey _) tracks.same.edges
  | expanded _ straight =>
    rw [hcircles] at straight
    cases straight

theorem circular
    (circular : scope.onPath (reference.key scope.base) = true ∨
      0 < hops ∧ reference.isSelf scope.view = true)
    (keeps : setup.settings.cyclePolicy.keepsEdges = false) :
    Simulates setup hops scope (.reference reference) state (.error error)
      after reach := by
  intro scope' task' plain answer after' reach' walk' hview alike tracks
  cases alike
  have hcircles : scope'.view.circles reference = true := by
    rw [← hview]
    exact View.circles_of_circular circular
  cases walk' with
  | reused hit => exact absurd hit (Memo.recallTarget_off tracks.off)
  | circled _ _ keeps' => exact Bool.noConfusion (keeps.symm.trans keeps')
  | expanded _ straight =>
    rw [hcircles] at straight
    cases straight

theorem tooDeep (straight : scope.onPath (reference.key scope.base) = false) :
    Simulates setup 0 scope (.reference reference) state (.error error)
      after reach := by
  intro scope' task' plain answer after' reach' walk' hview alike tracks
  cases alike
  cases walk' with
  | reused hit => exact absurd hit (Memo.recallTarget_off tracks.off)
  | circled _ circular =>
    rw [← scope'.view_onPath, ← scope'.view_base, ← hview] at circular
    rcases circular with honpath | ⟨hhops, _⟩
    · exact Bool.noConfusion (honpath.symm.trans straight)
    · exact absurd hhops (Nat.lt_irrefl 0)

/-- The plain walk goes the same way, and it does not get lost. -/
theorem lost (hloader : setup.loader = Loader.ofFunction f)
    (straight : scope.view.circles reference = false)
    (route : reference.Arrives (setup.caching true) scope state.toRun
      (.error error) run) :
    Simulates setup (hops + 1) scope (.reference reference) state (.error error)
      after reach := by
  intro scope' task' plain answer after' reach' walk' hview alike tracks
  cases alike
  rw [hview] at straight
  cases walk' with
  | reused hit => exact absurd hit (Memo.recallTarget_off tracks.off)
  | circled _ circular => exact (View.not_circular straight circular).elim
  | expanded _ _ route' =>
    obtain ⟨houtcome, _⟩ :=
      route.agrees route' hloader hloader hview tracks.same.catalog
    cases houtcome

theorem unexpanded (hloader : setup.loader = Loader.ofFunction f)
    (straight : scope.view.circles reference = false)
    (route : reference.Arrives (setup.caching true) scope state.toRun
      (.ok destination) run)
    (ih : Simulates setup hops
      (scope.descend (reference.key scope.base) destination.root destination.base)
      (.node destination.place) (State.recordExpansion ⟨run, state.notes⟩)
      (.error error) after reach) :
    Simulates setup (hops + 1) scope (.reference reference) state (.error error)
      after rest := by
  intro scope' task' plain answer after' reach' walk' hview alike tracks
  cases alike
  rw [hview] at straight
  cases walk' with
  | reused hit => exact absurd hit (Memo.recallTarget_off tracks.off)
  | circled _ circular => exact (View.not_circular straight circular).elim
  | expanded _ _ route' target' =>
    obtain ⟨hdestination, tracks'⟩ := tracks.route hloader hview route route'
    obtain ⟨hplace, hinner⟩ := Scope.view_descend_congr hview hdestination reference
    obtain ⟨_, hok, _⟩ := ih target' hinner (.node hplace) tracks'
    cases hok

/-- The plain walk as a whole stands behind the new note. -/
theorem expanded (hloader : setup.loader = Loader.ofFunction f)
    (straight : scope.view.circles reference = false)
    (route : reference.Arrives (setup.caching true) scope state.toRun
      (.ok destination) run)
    (ih : Simulates setup hops
      (scope.descend (reference.key scope.base) destination.root destination.base)
      (.node destination.place) (State.recordExpansion ⟨run, state.notes⟩)
      (.ok (.node node)) after rest) :
    Simulates setup (hops + 1) scope (.reference reference) state
      (.ok (.outcome (.target node))) (after.noteReference reference scope.base node
        fun view catalog =>
        view.circles reference = false ∧
          view.SameWay scope.view catalog reference destination.erase ∧
          rest (view.behind reference destination.erase) catalog)
      fun view catalog =>
        view.circles reference = false ∧
          view.SameWay scope.view catalog reference destination.erase ∧
          rest (view.behind reference destination.erase) catalog := by
  intro scope' task' plain answer after' reach' walk' hview alike tracks
  have hwhole := walk'
  cases alike
  rw [hview] at straight
  cases walk' with
  | reused hit => exact absurd hit (Memo.recallTarget_off tracks.off)
  | circled _ circular => exact (View.not_circular straight circular).elim
  | @expanded _ _ _ _ destination' _ result' _ rest' _ _ route' target' =>
    obtain ⟨hdestination, tracks'⟩ := tracks.route hloader hview route route'
    obtain ⟨hplace, hinner⟩ := Scope.view_descend_congr hview hdestination reference
    obtain ⟨_, htarget, alike, tracks'', hreach⟩ :=
      ih target' hinner (.node hplace) tracks'
    cases htarget
    cases alike with
    | node hnode =>
      have houtcome : (Answer.outcome (.target node)).Alike
          (.outcome (.target result')) := by
        refine .outcome ?_
        rw [Outcome.erase, Outcome.erase, hnode]
      have hreaches : ∀ (view : View) (catalog : Catalog Unit),
          view.circles reference = false ∧
              view.SameWay scope'.view catalog reference destination'.erase ∧
                rest (view.behind reference destination'.erase) catalog →
            view.circles reference = false ∧
              view.SameWay scope'.view catalog reference destination'.erase ∧
                rest' (view.behind reference destination'.erase) catalog :=
        fun _ catalog h => ⟨h.1, h.2.1, hreach _ catalog h.2.2⟩
      rw [hdestination, hview]
      refine ⟨_, rfl, houtcome, tracks''.noteReference fun hkind => ?_, hreaches⟩
      refine hwhole.backs tracks.off tracks.sorted ?_ houtcome hreaches
      rw [Mark.task, ← hkind]
      exact .reference reference

end

end Simulates

/-- Beside a walk that remembers nothing and succeeds, one that uses remembered
results fairly succeeds with the same answer. A result that is used fairly has a
walk behind it, and that walk and the one beside agree. -/
theorem Walk.simulates (hloader : setup.loader = Loader.ofFunction f)
    {Fair : Fairness} (hfair : Fair.Suffices setup.settings.cyclePolicy)
    (walk : Walk (setup.caching true) Fair hops scope task state result after reach) :
    Simulates setup hops scope task state result after reach := by
  induction walk with
  | bool => exact .bool
  | recalled _ noted mark fair => exact .recalled hloader hfair noted mark fair
  | unlinked _ _ ih => exact .unlinked ih
  | unfinished _ _ _ ihlink ihmembers => exact .unfinished ihlink ihmembers
  | concluded _ _ _ _ erase ihlink ihmembers =>
    exact .concluded erase ihlink ihmembers
  | nil => exact .nil
  | headFailed _ ih => exact .headFailed ih
  | tailFailed _ _ ihhead ihtail => exact .tailFailed ihhead ihtail
  | cons _ _ ihhead ihtail => exact .cons ihhead ihtail
  | unreferring none => exact .unreferring none
  | referring some _ ih => exact .referring some ih
  | reused _ static noted mark fair =>
    exact .reused hloader hfair static noted mark fair
  | circled _ circular _ => exact .circled circular
  | circular _ circular keeps => exact .circular circular keeps
  | tooDeep _ straight => exact .tooDeep straight
  | lost _ straight route => exact .lost hloader straight route
  | unexpanded _ straight route _ ih => exact .unexpanded hloader straight route ih
  | expanded _ straight route _ ih => exact .expanded hloader straight route ih

/-! ## Calls -/

theorem Except.exists_ok_ok {ε α β : Type} {a : Except ε α} {b : Except ε β}
    {p : α → β → Bool}
    (h : (a.toOption.bind fun x => b.toOption.map (p x)) = some true) :
    ∃ x y, a = .ok x ∧ b = .ok y ∧ p x y = true := by
  cases a with
  | error e => cases h
  | ok x =>
    cases b with
    | error e => cases h
    | ok y => exact ⟨x, y, rfl, rfl, Option.some.inj h⟩

theorem Setup.begin_tracks (setup : Setup) (session : Session) (schema : Node) :
    ((setup.caching true).begin session schema).Tracks (setup.caching false)
      ((setup.caching false).begin session schema) where
  same := ⟨rfl, rfl⟩
  sorted := List.Pairwise.nil
  off := rfl
  backed := by simp [Setup.begin]

variable {session : Session} {schemas : List Node} {schema node : Node}

/-- The same of whole calls. -/
theorem CallWalk.simulates {Fair : Fairness} {outcome : Except DerefError Node}
    (walk : CallWalk (setup.caching true) Fair session schema outcome after reach)
    (plain : CallWalk (setup.caching false) (fun _ _ _ => True) session schema
      (.ok node) after' reach')
    (hloader : setup.loader = Loader.ofFunction f)
    (hfair : Fair.Suffices setup.settings.cyclePolicy) :
    ∃ got, outcome = .ok got ∧ got.erase = node.erase ∧
      after.memo.edges = after'.memo.edges := by
  obtain ⟨answer, hanswer, alike, tracks, _⟩ :=
    Walk.simulates hloader hfair walk plain rfl (.node rfl)
      (setup.begin_tracks session schema)
  cases outcome with
  | error error => cases hanswer
  | ok got =>
    cases hanswer
    cases alike with
    | node h => exact ⟨got, rfl, h, tracks.same.edges⟩

/-- Where circular references are failures and the loader gives the same answers
again, remembered results change nothing if each is used only where the references
behind it lead the same ways. -/
theorem dereference_caching (setup : Setup)
    (hpolicy : setup.settings.cyclePolicy = .error)
    (hloader : setup.loader = Loader.ofFunction f) (h : session.Holds schemas)
    (hschema : schema ∈ schemas)
    (hfair : (setup.caching true).Reuses Fairness.sameWays session schema)
    {report : Report}
    (hplain : (dereference (setup.caching false) session schema).result =
      .ok report) :
    ∃ again, (dereference (setup.caching true) session schema).result = .ok again ∧
      again.schema.erase = report.schema.erase := by
  obtain ⟨outcome, after, reach, walk⟩ := hfair
  obtain ⟨plain, after', reach', walk', _⟩ :=
    exists_callWalk (setup.caching false) h hschema
  rw [walk'.dereference_eq] at hplain
  cases plain with
  | error error => cases hplain
  | ok node =>
    cases hplain
    obtain ⟨got, rfl, herase, _⟩ := walk.simulates walk' hloader
      (Fairness.sameWays_suffices (by rw [hpolicy]; rfl))
    rw [walk.dereference_eq]
    exact ⟨_, rfl, herase⟩

/-- A definition that two properties refer to. -/
def sharedDefinition : Json :=
  .obj [("$defs", .obj [("name", .obj [("type", .str "string")])]),
    ("properties", .obj [("first", .obj [("$ref", .str "#/$defs/name")]),
      ("last", .obj [("$ref", .str "#/$defs/name")])])]

/-- The same as a schema. -/
def sharedSchema : Document := (Schema.ofJson? sharedDefinition).getD (.bool true)

/-- The second property takes the result of the first. -/
theorem dereference_caching_sharedDefinition :
    (Setup.alone .error true).Reuses Fairness.sameWays
      (Session.empty.mint sharedSchema).2 (Session.empty.mint sharedSchema).1 ∧
    ∃ report again : Report,
      (Document.dereference (Setup.alone .error false) sharedSchema).result =
        .ok report ∧
      (Document.dereference (Setup.alone .error true) sharedSchema).result =
        .ok again ∧
      again.stats.referenceHits = 1 ∧ again.schema.erase = report.schema.erase := by
  have hvalue : Schema.ofJson? sharedDefinition =
      some (Session.empty.mint sharedSchema).1.erase := rfl
  have hwell : sharedDefinition.WellFormed := by decide +kernel
  have hpointed : sharedDefinition.IsPointed := by decide +kernel
  have hcircles : (Session.empty.mint sharedSchema).1.erase.circles = [] := by
    decide +kernel
  have hfair : (Setup.alone .error true).Reuses Fairness.sameWays
      (Session.empty.mint sharedSchema).2 (Session.empty.mint sharedSchema).1 :=
    (Setup.reuses_of_circles _ (Session.holds_empty.mint sharedSchema)
      List.mem_cons_self hvalue hwell hpointed hcircles).2
  obtain ⟨again, hagain, herase⟩ :=
    dereference_caching (.alone .error false) (f := fun _ => .absent)
    rfl rfl (Session.holds_empty.mint sharedSchema) List.mem_cons_self hfair rfl
  refine ⟨hfair, _, again, rfl, hagain, ?_, herase⟩
  cases hagain
  rfl

/-- Two properties with recursive anchors of their own, that refer to one
definition; the definition refers to what the recursive anchor around it has. -/
def twoAnchors : Json :=
  .obj [
    ("$defs", .obj [("shared", .obj [("properties",
      .obj [("inner", .obj [("$recursiveRef", .str "#/$defs/leaf")])])])]),
    ("properties", .obj [("first", anchored "string"), ("last", anchored "integer")])]
where
  anchored (type : String) : Json :=
    .obj [("$defs", .obj [("leaf", .obj [("type", .str type)])]),
      ("$recursiveAnchor", .bool true),
      ("properties", .obj [("member", .obj [("$ref", .str "#/$defs/shared")])])]

/-- The same as a schema. -/
def twoAnchorsSchema : Document := (Schema.ofJson? twoAnchors).getD (.bool true)

/-- Remembered by base and reference alone, the result for the anchor of the first
property is taken for that of the second. -/
theorem dereference_caching_twoAnchors :
    ∃ report again : Report,
      (Document.dereference (Setup.alone .error false) twoAnchorsSchema).result =
        .ok report ∧
      (Document.dereference (Setup.alone .error true) twoAnchorsSchema).result =
        .ok again ∧
      again.schema.same report.schema = false := by
  obtain ⟨report, again, hreport, hagain, hfound⟩ := Except.exists_ok_ok
    (a := (Document.dereference (.alone .error false) twoAnchorsSchema).result)
    (b := (Document.dereference (.alone .error true) twoAnchorsSchema).result)
    (p := fun report again => again.schema.same report.schema = false)
    (by decide +kernel)
  exact ⟨report, again, hreport, hagain, of_decide_eq_true hfound⟩

/-! ## Local documents -/

/-- In a local document, and whatever becomes of circular references, remembered
results change nothing if each is used only where the same references would be
circular. -/
theorem dereference_caching_local (setup : Setup) (h : session.Holds schemas)
    (hschema : schema ∈ schemas) {value : Json}
    (hvalue : Schema.ofJson? value = some schema.erase) (hlocal : value.IsLocal)
    (hfair : (setup.caching true).Reuses Fairness.sameSteps session schema)
    {report : Report}
    (hplain : (dereference (setup.caching false) session schema).result =
      .ok report) :
    ∃ again, (dereference (setup.caching true) session schema).result = .ok again ∧
      again.schema.erase = report.schema.erase ∧ again.edges = report.edges := by
  have hjson : schema.erase.toJson = value := Schema.toJson_of_ofJson? hvalue
  subst hjson
  have hscope : (Scope.start schema none).Within schema.erase := ⟨rfl, rfl⟩
  have hinside : (Task.node schema).Inside schema.erase := List.Subset.refl _
  obtain ⟨outcome, after, reach, walk⟩ := hfair
  obtain ⟨plain, after', reach', walk', _⟩ :=
    exists_callWalk (setup.caching false) h hschema
  rw [walk'.dereference_eq] at hplain
  cases plain with
  | error error => cases hplain
  | ok node =>
    cases hplain
    have hcached : CallWalk (Setup.caching { setup with loader := .none } true)
        Fairness.sameSteps session schema outcome after reach :=
          Walk.reload hlocal .none walk hscope hinside
    have hplain : CallWalk (Setup.caching { setup with loader := .none } false)
        (fun _ _ _ => True) session schema (.ok node) after' reach' :=
          Walk.reload hlocal .none walk' hscope hinside
    obtain ⟨got, rfl, herase, hedges⟩ :=
      hcached.simulates hplain (f := fun _ => .absent) rfl
      (Fairness.sameSteps_suffices _)
    rw [walk.dereference_eq]
    exact ⟨_, rfl, herase, hedges⟩

/-- A definition that refers to itself, and two properties that refer to it. -/
def sharedCycle : Json :=
  .obj [("$defs",
    .obj [("chain", .obj [("not", .obj [("$ref", .str "#/$defs/chain")])])]),
    ("properties", .obj [("first", .obj [("$ref", .str "#/$defs/chain")]),
      ("last", .obj [("$ref", .str "#/$defs/chain")])])]

/-- The same as a schema. -/
def sharedCycleSchema : Document := (Schema.ofJson? sharedCycle).getD (.bool true)

/-- The second property takes the result of the first, with the reference that is
kept in it. -/
theorem dereference_caching_sharedCycle :
    (Setup.alone .ignore true).Reuses Fairness.sameSteps
      (Session.empty.mint sharedCycleSchema).2
      (Session.empty.mint sharedCycleSchema).1 ∧
    ∃ report again : Report,
      (Document.dereference (Setup.alone .ignore false) sharedCycleSchema).result =
        .ok report ∧
      (Document.dereference (Setup.alone .ignore true) sharedCycleSchema).result =
        .ok again ∧
      again.stats.referenceHits = 1 ∧ again.edges = ["$ref||#/$defs/chain"] ∧
      again.schema.erase = report.schema.erase ∧ again.edges = report.edges := by
  have hfair : (Setup.alone .ignore true).Reuses Fairness.sameSteps
      (Session.empty.mint sharedCycleSchema).2
      (Session.empty.mint sharedCycleSchema).1 := by
    apply Exists.intro (.ok _)
    apply Exists.intro
    apply Exists.intro
    apply Walk.concluded
    · rfl
    · exact .unreferring rfl
    · apply Walk.cons
      -- the first property is expanded, and the reference in its target is kept
      · apply Walk.concluded
        · rfl
        · apply Walk.referring
          · rfl
          · apply Walk.expanded
            · rfl
            · rfl
            · exact ⟨rfl, rfl, rfl⟩
            · apply Walk.concluded
              · rfl
              · exact .unreferring rfl
              · apply Walk.cons
                · apply Walk.concluded
                  · rfl
                  · apply Walk.referring
                    · rfl
                    · apply Walk.circled
                      · rfl
                      · exact .inl rfl
                      · rfl
                  · exact .nil
                  · rfl
                  · rfl
                · exact .nil
              · rfl
              · rfl
        · exact .nil
        · rfl
        · rfl
      -- the last property takes its result
      · apply Walk.cons
        · apply Walk.concluded
          · rfl
          · apply Walk.referring
            · rfl
            · apply Walk.reused _ _ (.tail _ (.head _))
              · rfl
              · exact ⟨rfl, rfl, trivial, ⟨⟨rfl, rfl⟩, trivial⟩, trivial⟩
              · rfl
              · rfl
          · exact .nil
          · rfl
          · rfl
        · exact .nil
    · rfl
    · rfl
  obtain ⟨report, again, hreport, hagain, hfound⟩ := Except.exists_ok_ok
    (a := (Document.dereference (.alone .ignore false) sharedCycleSchema).result)
    (b := (Document.dereference (.alone .ignore true) sharedCycleSchema).result)
    (p := fun _ again => again.stats.referenceHits = 1 ∧
      again.edges = ["$ref||#/$defs/chain"])
    (by decide +kernel)
  obtain ⟨hhits, hedges⟩ := of_decide_eq_true hfound
  have hvalue : Schema.ofJson? sharedCycle =
      some (Session.empty.mint sharedCycleSchema).1.erase := rfl
  have hlocal : sharedCycle.IsLocal := by decide +kernel
  obtain ⟨other, hother, hsame⟩ := dereference_caching_local (.alone .ignore false)
    (Session.holds_empty.mint sharedCycleSchema) List.mem_cons_self hvalue hlocal
    hfair hreport
  obtain rfl : again = other := Except.ok.inj (hagain.symm.trans hother)
  exact ⟨hfair, report, again, hreport, hagain, hhits, hedges, hsame⟩

/-- Two definitions that refer to each other, each referred to by a property. -/
def crossedCycles : Json :=
  .obj [
    ("definitions",
      .obj [("A", .obj [("not", .obj [("$ref", .str "#/definitions/B")])]),
        ("B", .obj [("not", .obj [("$ref", .str "#/definitions/A")])])]),
    ("properties", .obj [("x", .obj [("$ref", .str "#/definitions/A")]),
      ("y", .obj [("$ref", .str "#/definitions/B")])])]

/-- The same as a schema. -/
def crossedCyclesSchema : Document := (Schema.ofJson? crossedCycles).getD (.bool true)

/-- What the second property is given was cut off while the first one was in flight. -/
theorem dereference_caching_crossedCycles :
    crossedCycles.IsLocal ∧
    ∃ report again : Report,
      (Document.dereference (Setup.alone .ignore false)
        crossedCyclesSchema).result = .ok report ∧
      (Document.dereference (Setup.alone .ignore true) crossedCyclesSchema).result =
        .ok again ∧
      again.schema.same report.schema = false ∧ again.edges ≠ report.edges := by
  refine ⟨by decide +kernel, ?_⟩
  obtain ⟨report, again, hreport, hagain, hfound⟩ := Except.exists_ok_ok
    (a := (Document.dereference (.alone .ignore false) crossedCyclesSchema).result)
    (b := (Document.dereference (.alone .ignore true) crossedCyclesSchema).result)
    (p := fun report again =>
      again.schema.same report.schema = false ∧ again.edges ≠ report.edges)
    (by decide +kernel)
  exact ⟨report, again, hreport, hagain, of_decide_eq_true hfound⟩

end SchemaDeref
