import SchemaDeref.Proofs.Preflight

/-!
# Fair use of remembered results

What can be asked of a remembered result where it is used: that its steps would be
the same there. A call that asks this of every result it uses makes no other steps
than one that asks for nothing, as long as all uses are fair (`Setup.Reuses`). This
holds of every call on a local document in which no circular reference is met, such
as those in which the search finds no circle (`Setup.reuses_of_circles`). There a
result is right wherever its task comes up again: all its references lead to places
of the document, and whatever is in flight, none of them is circular.
-/

namespace SchemaDeref

/-! ## What is asked -/

namespace Fairness

/-- Where the references behind a result lead the same ways, and the same ones are
in flight. -/
def sameSteps : Fairness := fun reach view catalog => reach view catalog

/-- Where the references behind a result lead the same ways, whatever is in flight. -/
def sameWays : Fairness := fun reach view catalog => reach { view with
  path := [] } catalog

end Fairness

/-- A call uses remembered results only where that is fair. -/
def Setup.Reuses (setup : Setup) (Fair : Fairness) (session : Session)
    (schema : Node) : Prop :=
  ∃ result after reach, CallWalk setup Fair session schema result after reach

/-- The task whose result was remembered. -/
def Mark.task : Mark → Task
  | .node n => .node n
  | .reference _ target => .reference ⟨.static, target⟩

/-! ## Views in a document -/

/-- A view in the document itself, in which nothing but these keys is in flight. -/
structure View.Among (d : Document) (path : List String) (view : View) : Prop where
  root : view.root = d
  base : view.base = none
  path : view.path ⊆ path

namespace View.Among

variable {d : Document} {path : List String} {view : View}

theorem enter (h : view.Among d path) (hlocal : d.toJson.IsLocal)
    {keywords : Keywords Unit} (hinside : d.Encloses (.object () keywords)) :
    (view.enter keywords).Among d path where
  root := h.root
  base := by
    simp only [View.enter, Keywords.baseWithin, hinside.id?_eq_none hlocal]
    exact h.base
  path := h.path

variable {target : String}

/-- What is not circular with these keys in flight is not so with fewer. -/
theorem circles_eq_false (h : view.Among d path)
    (hstraight : ¬ Document.Circular path target) :
    view.circles ⟨.static, target⟩ = false := by
  rw [Bool.eq_false_iff]
  intro hcircles
  rw [View.circles, Bool.or_eq_true] at hcircles
  refine hstraight (hcircles.imp (fun honpath => ?_) fun hself => hself)
  rw [View.onPath, List.contains_iff_mem, h.base] at honpath
  exact h.path honpath

theorem behind (h : view.Among d path)
    (huri : (ReferenceParts.ofString target).uri = none)
    (destination : Destination Unit) :
    (view.behind ⟨.static, target⟩ destination).Among d
      (localKey target :: path) := by
  have hparts : (⟨.static, target⟩ : Reference).parts.uri = none := huri
  simp only [View.behind, hparts]
  refine ⟨h.root, h.base, ?_⟩
  rw [h.base]
  exact List.cons_subset_cons _ h.path

theorem place_eq {other : View} (h : view.Among d path) (hother : other.root = d) :
    view.place ⟨.static, target⟩ = other.place ⟨.static, target⟩ := by
  simp only [View.place, h.root, hother]

end View.Among

/-! ## Reach -/

/-- Wherever in the document the task comes up, the same steps lead to its result. -/
def Task.Covered (d : Document) (task : Task) (reach : Reach) : Prop :=
  ∀ path view catalog, task.Stands d path → view.Among d path → reach view catalog

/-- That holds of all that is remembered. -/
def State.Covered (d : Document) (state : State) : Prop :=
  ∀ note ∈ state.notes, note.mark.task.Covered d note.reach

/-- What it takes for a use to be fair: the same steps, in views of the same
document with no more in flight. -/
def Fairness.IsMild (Fair : Fairness) : Prop :=
  ∀ (d : Document) (reach : Reach) (view : View) (catalog : Catalog Unit),
    view.Among d view.path →
    (∀ other : View, other.Among d view.path → reach other catalog) →
      Fair reach view catalog

theorem Fairness.sameSteps_isMild : sameSteps.IsMild :=
  fun _ _ view _ hview h => h view hview

theorem Fairness.sameWays_isMild : sameWays.IsMild :=
  fun _ _ _ _ hview h => h _ ⟨hview.root, hview.base, List.nil_subset _⟩

theorem Scope.Within.among {d : Document} {scope : Scope} (h : scope.Within d) :
    scope.view.Among d scope.path :=
  ⟨h.root, h.base, List.Subset.refl _⟩

namespace Task.Covered

variable {d : Document} {first second : Reach}

theorem cons {node : Node} {rest : List Node}
    (hhead : (Task.node node).Covered d first)
    (htail : (Task.nodes rest).Covered d second) :
    (Task.nodes (node :: rest)).Covered d fun view catalog =>
      first view catalog ∧ second view catalog := by
  intro path view catalog hstands hview
  obtain ⟨hnode, hrest⟩ := List.forall_mem_cons.mp hstands
  exact ⟨hhead path view catalog hnode hview, htail path view catalog hrest hview⟩

theorem concluded (hlocal : d.toJson.IsLocal) {id : NodeId}
    {keywords : Keywords NodeId} (hlink : (Task.link keywords).Covered d first)
    (hmembers : (Task.nodes (Keywords.applied keywords)).Covered d second) :
    (Task.node (.object id keywords)).Covered d fun view catalog =>
      first (view.enter (eraseEntries keywords)) catalog ∧
        second (view.enter (eraseEntries keywords)) catalog := by
  intro path view catalog hstands hview
  rw [Task.Stands, Schema.erase_object] at hstands
  have hinner := hview.enter hlocal hstands.encloses
  exact ⟨hlink path _ catalog hstands hinner,
    hmembers path _ catalog (.applied hstands) hinner⟩

theorem referring (hlocal : d.toJson.IsLocal) {keywords : Keywords NodeId}
    {reference : Reference} (some : Keywords.reference? keywords = some reference)
    (h : (Task.reference reference.effective).Covered d first) :
    (Task.link keywords).Covered d first := by
  intro path view catalog hstands hview
  obtain ⟨heffective, hreference⟩ := Task.Stands.reference hstands hlocal some
  rw [heffective] at h
  exact h path view catalog hreference hview

/-- From wherever a reference is met it goes the same way, and is no circle. -/
theorem expanded (hlocal : d.toJson.IsLocal) (hstraight : d.IsStraight)
    {setup : Setup} {scope : Scope} (hscope : scope.Within d) {target : String}
    {run after : Run} {destination : Destination NodeId}
    (route : (⟨.static, target⟩ : Reference).Arrives setup scope run
      (.ok destination) after)
    (h : (Task.node destination.place).Covered d first) :
    (Task.reference ⟨.static, target⟩).Covered d fun view catalog =>
      view.circles ⟨.static, target⟩ = false ∧
        view.SameWay scope.view catalog ⟨.static, target⟩ destination.erase ∧
        first (view.behind ⟨.static, target⟩ destination.erase) catalog := by
  rintro path view catalog ⟨_, hmeets⟩ hview
  have huri : (ReferenceParts.ofString target).uri = none :=
    hmeets.refersTo.uri hlocal
  have hfree := hstraight path target hmeets
  obtain ⟨hlocated, _, _⟩ := route.inside hscope rfl huri
  obtain ⟨keywords, stand, refers⟩ := hmeets
  refine ⟨hview.circles_eq_false hfree, ?_, ?_⟩
  · have hparts : (⟨.static, target⟩ : Reference).parts.uri = none := huri
    simp only [View.SameWay, hparts]
    exact hview.place_eq hscope.root
  · exact h _ _ catalog (.place stand refers hfree hlocated) (hview.behind huri _)

end Task.Covered

namespace State.Covered

variable {d : Document} {state : State}

theorem of_notes_eq {other : State} (h : state.Covered d)
    (hnotes : other.notes = state.notes) :
    other.Covered d := by
  rw [State.Covered, hnotes]
  exact h

theorem noteNode (h : state.Covered d) {node result : Node} {reach : Reach}
    (hreach : (Task.node node).Covered d reach) :
    (state.noteNode node result reach).Covered d :=
  List.forall_mem_cons.mpr ⟨hreach, h⟩

theorem noteReference (h : state.Covered d) {reference : Reference}
    {base : Option String} {result : Node} {reach : Reach}
    (hreach : (Task.reference reference).Covered d reach) :
    (state.noteReference reference base result reach).Covered d := by
  obtain ⟨kind, target⟩ := reference
  rw [State.Covered, State.noteReference]
  dsimp only
  split
  · rename_i hkind
    subst hkind
    exact List.forall_mem_cons.mpr ⟨hreach, h⟩
  · exact h

end State.Covered

/-! ## Walks -/

/-- A walk that asks this of every result it uses, and covers what it remembers. -/
structure Fairly (d : Document) (setup : Setup) (Fair : Fairness) (hops : Nat)
    (scope : Scope) (task : Task) (state : State)
    (result : Except DerefError Answer) (after : State) (reach : Reach) : Prop where
  walk : Walk setup Fair hops scope task state result after reach
  covered : ∀ answer, result = .ok answer → task.Covered d reach
  after : after.Covered d

/-- That where a task can come up in the document, it is walked like that. -/
def Document.Affords (d : Document) (setup : Setup) (Fair : Fairness) (hops : Nat)
    (scope : Scope) (task : Task) (state : State)
    (result : Except DerefError Answer) (after : State) (reach : Reach) : Prop :=
  scope.Within d → task.Stands d scope.path → state.Covered d →
    Fairly d setup Fair hops scope task state result after reach

namespace Document.Affords

variable {d : Document} {setup : Setup} {Fair : Fairness} {hops : Nat} {scope : Scope}
  {state middle after : State} {error : DerefError} {reach rest : Reach}

/-! ### Lists of schemas -/

section

variable {node head : Node} {nodes tail : List Node}

theorem headFailed
    (ih : d.Affords setup Fair hops scope (.node node) state
      (.error error) after reach) :
    d.Affords setup Fair hops scope (.nodes (node :: nodes)) state (.error error)
      after fun _ _ => False := by
  intro hscope hstands hstate
  have hhead := ih hscope (hstands _ List.mem_cons_self) hstate
  exact ⟨.headFailed hhead.walk, by rintro answer ⟨⟩, hhead.after⟩

theorem tailFailed
    (ihhead : d.Affords setup Fair hops scope (.node node) state
      (.ok (.node head)) middle reach)
    (ihtail : d.Affords setup Fair hops scope (.nodes nodes) middle
      (.error error) after rest) :
    d.Affords setup Fair hops scope (.nodes (node :: nodes)) state (.error error)
      after fun _ _ => False := by
  intro hscope hstands hstate
  obtain ⟨hnode, hrest⟩ := List.forall_mem_cons.mp hstands
  have hhead := ihhead hscope hnode hstate
  have htail := ihtail hscope hrest hhead.after
  exact ⟨.tailFailed hhead.walk htail.walk, by rintro answer ⟨⟩, htail.after⟩

theorem cons
    (ihhead : d.Affords setup Fair hops scope (.node node) state
      (.ok (.node head)) middle reach)
    (ihtail : d.Affords setup Fair hops scope (.nodes nodes) middle
      (.ok (.nodes tail)) after rest) :
    d.Affords setup Fair hops scope (.nodes (node :: nodes)) state
      (.ok (.nodes (head :: tail))) after fun view catalog => reach view catalog ∧
        rest view catalog := by
  intro hscope hstands hstate
  obtain ⟨hnode, hrest⟩ := List.forall_mem_cons.mp hstands
  have hhead := ihhead hscope hnode hstate
  have htail := ihtail hscope hrest hhead.after
  refine ⟨.cons hhead.walk htail.walk, fun _ _ => ?_, htail.after⟩
  exact .cons (hhead.covered _ rfl) (htail.covered _ rfl)

end

/-! ### Objects and links -/

section

variable {id : NodeId} {keywords : Keywords NodeId} {outcome : Outcome}
  {results : List Node} {node : Node} {next : NodeId} {reference : Reference}
  {result : Except DerefError Answer}

theorem recalled (hmild : Fair.IsMild) {note : Note}
    (hit : (state.memo.recallNode (.object id keywords)).1 = some note.result)
    (noted : note ∈ state.notes) (mark : note.mark = .node (.object id keywords)) :
    d.Affords setup Fair hops scope (.node (.object id keywords)) state
      (.ok (.node note.result)) (state.lookNode (.object id keywords))
      note.reach := by
  intro hscope hstands hstate
  have hreach : (Task.node (.object id keywords)).Covered d note.reach := by
    have hnote := hstate note noted
    rwa [mark] at hnote
  refine ⟨.recalled hit noted mark ?_, fun _ _ => hreach, hstate.of_notes_eq rfl⟩
  exact hmild d _ _ _ hscope.among fun other hother => hreach _ other _ hstands hother

theorem unlinked (hlocal : d.toJson.IsLocal)
    (fresh : (state.memo.recallNode (.object id keywords)).1 = none)
    (ih : d.Affords setup Fair hops (scope.enter id keywords) (.link keywords) state
      (.error error) after reach) :
    d.Affords setup Fair hops scope (.node (.object id keywords)) state
      (.error error) after fun _ _ => False := by
  intro hscope hstands hstate
  rw [Task.Stands, Schema.erase_object] at hstands
  rw [Affords, scope.path_enter] at ih
  have hlink := ih (hscope.enter hlocal id hstands.encloses) hstands hstate
  exact ⟨.unlinked fresh hlink.walk, by rintro answer ⟨⟩, hlink.after⟩

theorem unfinished (hlocal : d.toJson.IsLocal)
    (fresh : (state.memo.recallNode (.object id keywords)).1 = none)
    (ihlink : d.Affords setup Fair hops (scope.enter id keywords) (.link keywords)
      state (.ok (.outcome outcome)) middle reach)
    (ihmembers : d.Affords setup Fair hops (scope.enter id keywords)
      (.nodes (Keywords.applied keywords)) middle (.error error) after rest) :
    d.Affords setup Fair hops scope (.node (.object id keywords)) state
      (.error error) after fun _ _ => False := by
  intro hscope hstands hstate
  rw [Task.Stands, Schema.erase_object] at hstands
  rw [Affords, scope.path_enter] at ihlink ihmembers
  have hinner := hscope.enter hlocal id hstands.encloses
  have hlink := ihlink hinner hstands hstate
  have hmembers := ihmembers hinner (.applied hstands) hlink.after
  exact ⟨.unfinished fresh hlink.walk hmembers.walk,
    by rintro answer ⟨⟩, hmembers.after⟩

theorem concluded (hlocal : d.toJson.IsLocal)
    (fresh : (state.memo.recallNode (.object id keywords)).1 = none)
    (conclude : (Action.conclude id keywords
      (Keywords.refill keywords results) outcome).on
      after.toRun = (.ok node, { after.toRun with next }))
    (erase : node.erase = Document.concluded
      (Keywords.refill (eraseEntries keywords) (results.map Schema.erase))
      outcome.erase)
    (ihlink : d.Affords setup Fair hops (scope.enter id keywords) (.link keywords)
      state (.ok (.outcome outcome)) middle reach)
    (ihmembers : d.Affords setup Fair hops (scope.enter id keywords)
      (.nodes (Keywords.applied keywords)) middle (.ok (.nodes results)) after rest) :
    d.Affords setup Fair hops scope (.node (.object id keywords)) state
      (.ok (.node node)) ({ after with next }.noteNode (.object id keywords) node
        fun view catalog =>
        reach (view.enter (eraseEntries keywords)) catalog ∧
          rest (view.enter (eraseEntries keywords)) catalog)
      fun view catalog =>
        reach (view.enter (eraseEntries keywords)) catalog ∧
          rest (view.enter (eraseEntries keywords)) catalog := by
  intro hscope hstands hstate
  rw [Task.Stands, Schema.erase_object] at hstands
  rw [Affords, scope.path_enter] at ihlink ihmembers
  have hinner := hscope.enter hlocal id hstands.encloses
  have hlink := ihlink hinner hstands hstate
  have hmembers := ihmembers hinner (.applied hstands) hlink.after
  have hcovered : (Task.node (.object id keywords)).Covered d _ :=
    .concluded hlocal (hlink.covered _ rfl) (hmembers.covered _ rfl)
  refine ⟨.concluded fresh hlink.walk hmembers.walk conclude erase,
    fun _ _ => hcovered, ?_⟩
  exact State.Covered.noteNode (hmembers.after.of_notes_eq rfl) hcovered

theorem referring (hlocal : d.toJson.IsLocal)
    (some : Keywords.reference? keywords = some reference)
    (ih : d.Affords setup Fair hops scope (.reference reference.effective)
      (state.warned keywords reference.kind) result after reach) :
    d.Affords setup Fair hops scope (.link keywords) state result after reach := by
  intro hscope hstands hstate
  obtain ⟨heffective, hreference⟩ := Task.Stands.reference hstands hlocal some
  have hfollow := ih hscope (heffective.symm ▸ hreference) (hstate.of_notes_eq rfl)
  refine ⟨.referring some hfollow.walk, fun answer hok => ?_, hfollow.after⟩
  exact .referring hlocal some (hfollow.covered answer hok)

end

/-! ### References -/

section

variable {reference : Reference} {destination : Destination NodeId} {run : Run}
  {node : Node}

theorem reused (hmild : Fair.IsMild) {note : Note}
    (hit : (state.memo.recallTarget reference scope.base).1 = some note.result)
    (static : reference.kind = .static) (noted : note ∈ state.notes)
    (mark : note.mark = .reference (scope.base.getD "") reference.target) :
    d.Affords setup Fair hops scope (.reference reference) state
      (.ok (.outcome (.target note.result)))
      (state.lookReference reference scope.base) note.reach := by
  intro hscope hstands hstate
  have hreach : (Task.reference reference).Covered d note.reach := by
    have hnote := hstate note noted
    rwa [mark, Mark.task, ← static] at hnote
  refine ⟨.reused hit static noted mark ?_, fun _ _ => hreach, hstate.of_notes_eq rfl⟩
  exact hmild d _ _ _ hscope.among fun other hother => hreach _ other _ hstands hother

theorem tooDeep (fresh : (state.memo.recallTarget reference scope.base).1 = none)
    (straight : scope.onPath (reference.key scope.base) = false) :
    d.Affords setup Fair 0 scope (.reference reference) state
      (.error (.tooDeep setup.settings.maxDepth reference.target)) state
      fun _ _ => False :=
  fun _ _ hstate => ⟨.tooDeep fresh straight, by rintro answer ⟨⟩, hstate⟩

theorem lost (fresh : (state.memo.recallTarget reference scope.base).1 = none)
    (straight : scope.view.circles reference = false)
    (route : reference.Arrives setup scope state.toRun (.error error) run) :
    d.Affords setup Fair (hops + 1) scope (.reference reference) state (.error error)
      ⟨run, state.notes⟩ fun _ _ => False :=
  fun _ _ hstate =>
    ⟨.lost fresh straight route, by rintro answer ⟨⟩, hstate.of_notes_eq rfl⟩

theorem unexpanded (hlocal : d.toJson.IsLocal)
    (fresh : (state.memo.recallTarget reference scope.base).1 = none)
    (straight : scope.view.circles reference = false)
    (route : reference.Arrives setup scope state.toRun (.ok destination) run)
    (ih : d.Affords setup Fair hops
      (scope.descend (reference.key scope.base) destination.root destination.base)
      (.node destination.place) (State.recordExpansion ⟨run, state.notes⟩)
      (.error error) after reach) :
    d.Affords setup Fair (hops + 1) scope (.reference reference) state
      (.error error) after fun _ _ => False := by
  intro hscope hstands hstate
  have hlimit : scope.path.length + (hops + 1) = _ := rfl
  obtain ⟨hplace, hwithin, _⟩ := hstands.expanded hlocal hscope straight route hlimit
  have htarget := ih (hwithin _) hplace (hstate.of_notes_eq rfl)
  exact ⟨.unexpanded fresh straight route htarget.walk,
    by rintro answer ⟨⟩, htarget.after⟩

theorem expanded (hlocal : d.toJson.IsLocal) (hstraight : d.IsStraight)
    (fresh : (state.memo.recallTarget reference scope.base).1 = none)
    (straight : scope.view.circles reference = false)
    (route : reference.Arrives setup scope state.toRun (.ok destination) run)
    (ih : d.Affords setup Fair hops
      (scope.descend (reference.key scope.base) destination.root destination.base)
      (.node destination.place) (State.recordExpansion ⟨run, state.notes⟩)
      (.ok (.node node)) after reach) :
    d.Affords setup Fair (hops + 1) scope (.reference reference) state
      (.ok (.outcome (.target node)))
      (after.noteReference reference scope.base node fun view catalog =>
        view.circles reference = false ∧
          view.SameWay scope.view catalog reference destination.erase ∧
          reach (view.behind reference destination.erase) catalog)
      fun view catalog =>
        view.circles reference = false ∧
          view.SameWay scope.view catalog reference destination.erase ∧
          reach (view.behind reference destination.erase) catalog := by
  intro hscope hstands hstate
  have hlimit : scope.path.length + (hops + 1) = _ := rfl
  obtain ⟨hplace, hwithin, _⟩ := hstands.expanded hlocal hscope straight route hlimit
  have htarget := ih (hwithin _) hplace (hstate.of_notes_eq rfl)
  obtain ⟨kind, target⟩ := reference
  obtain ⟨hkind, _⟩ := hstands
  subst hkind
  have hcovered :=
    Task.Covered.expanded hlocal hstraight hscope route (htarget.covered _ rfl)
  refine ⟨.expanded fresh straight route htarget.walk, fun _ _ => hcovered, ?_⟩
  exact htarget.after.noteReference hcovered

/-- A circular reference is not met. -/
theorem not_circular (hstraight : d.IsStraight)
    (circular : scope.onPath (reference.key scope.base) = true ∨
      0 < hops ∧ reference.isSelf scope.view = true)
    {result : Except DerefError Answer} :
    d.Affords setup Fair hops scope (.reference reference) state result
      after reach := by
  rintro hscope ⟨hkind, hmeets⟩ _
  obtain ⟨kind, target⟩ := reference
  subst hkind
  have hcircular := (circular_iff hscope).mpr (View.circles_of_circular circular)
  exact absurd hcircular (hstraight _ _ hmeets)

end

end Document.Affords

variable {setup : Setup} {hops : Nat} {scope : Scope} {task : Task}
  {state after : State} {result : Except DerefError Answer} {reach : Reach}

/-- In a local document without circular references, a walk could have asked more of
the results that it uses. -/
theorem Walk.affords {d : Document} (hlocal : d.toJson.IsLocal)
    (hstraight : d.IsStraight) {Fair Fair' : Fairness} (hmild : Fair'.IsMild)
    (walk : Walk setup Fair hops scope task state result after reach) :
    d.Affords setup Fair' hops scope task state result after reach := by
  induction walk with
  | bool => exact fun _ _ hstate => ⟨.bool, fun _ _ _ _ _ _ _ => trivial, hstate⟩
  | nil => exact fun _ _ hstate => ⟨.nil, fun _ _ _ _ _ _ _ => trivial, hstate⟩
  | unreferring none =>
    exact fun _ _ hstate => ⟨.unreferring none, fun _ _ _ _ _ _ _ => trivial, hstate⟩
  | recalled hit noted mark => exact .recalled hmild hit noted mark
  | unlinked fresh _ ih => exact .unlinked hlocal fresh ih
  | unfinished fresh _ _ ihlink ihmembers =>
    exact .unfinished hlocal fresh ihlink ihmembers
  | concluded fresh _ _ conclude erase ihlink ihmembers =>
    exact .concluded hlocal fresh conclude erase ihlink ihmembers
  | headFailed _ ih => exact .headFailed ih
  | tailFailed _ _ ihhead ihtail => exact .tailFailed ihhead ihtail
  | cons _ _ ihhead ihtail => exact .cons ihhead ihtail
  | referring some _ ih => exact .referring hlocal some ih
  | reused hit static noted mark => exact .reused hmild hit static noted mark
  | circled _ circular => exact .not_circular hstraight circular
  | circular _ circular => exact .not_circular hstraight circular
  | tooDeep fresh straight => exact .tooDeep fresh straight
  | lost fresh straight route => exact .lost fresh straight route
  | unexpanded fresh straight route _ ih =>
    exact .unexpanded hlocal fresh straight route ih
  | expanded fresh straight route _ ih =>
    exact .expanded hlocal hstraight fresh straight route ih

/-! ## Calls -/

/-- On a local document without circular references every call uses what it
remembers fairly. -/
theorem Setup.reuses_of_isStraight (setup : Setup) {session : Session}
    {schemas : List Node} {schema : Node} (h : session.Holds schemas)
    (hschema : schema ∈ schemas) (hlocal : schema.erase.toJson.IsLocal)
    (hstraight : schema.erase.IsStraight) {Fair : Fairness} (hmild : Fair.IsMild) :
    setup.Reuses Fair session schema := by
  obtain ⟨result, after, reach, walk, _, _⟩ := exists_callWalk setup h hschema
  have hnotes : (setup.begin session schema).Covered schema.erase := by
    simp [State.Covered, Setup.begin]
  exact ⟨result, after, reach,
    (Walk.affords hlocal hstraight hmild walk ⟨rfl, rfl⟩ .root hnotes).walk⟩

/-- So does every call on a document in which the search finds no circle, in either
sense of a fair use. -/
theorem Setup.reuses_of_circles (setup : Setup) {session : Session}
    {schemas : List Node} {schema : Node} (h : session.Holds schemas)
    (hschema : schema ∈ schemas) {value : Json}
    (hvalue : Schema.ofJson? value = some schema.erase) (hwell : value.WellFormed)
    (hpointed : value.IsPointed) (hcircles : schema.erase.circles = []) :
    setup.Reuses .sameSteps session schema ∧
      setup.Reuses .sameWays session schema := by
  have hjson : schema.erase.toJson = value := Schema.toJson_of_ofJson? hvalue
  subst hjson
  have hstraight : schema.erase.IsStraight :=
    Document.isStraight_of_circles hvalue hwell hpointed hcircles
  exact ⟨setup.reuses_of_isStraight h hschema hpointed.isLocal hstraight
      Fairness.sameSteps_isMild,
    setup.reuses_of_isStraight h hschema hpointed.isLocal hstraight
      Fairness.sameWays_isMild⟩

end SchemaDeref
