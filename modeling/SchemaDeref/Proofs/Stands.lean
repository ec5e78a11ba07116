import Mathlib.Data.List.Dedup
import SchemaDeref.Proofs.Inlining
import SchemaDeref.Proofs.Places

/-!
# Where a walk gets to

In a local document a walk is always at a schema of the document, with references of
the document in flight. `Document.Stands` says where it can be, without the walk: at
schemas that are applied, and behind references that are not circular there. A walk
fails, and records a key, only at a reference met at such a stand
(`Walk.explained`). Where all references lead to places of the document, a limit of
the depth that is no smaller than their number is never met
(`dereference_within_limit`).
-/

namespace SchemaDeref

namespace Document

/-! ## Stands -/

/-- With these keys in flight a `$ref` is circular: it is in flight itself, or it
names the whole document. -/
def Circular (path : List String) (target : String) : Prop :=
  localKey target ∈ path ∨ (ReferenceParts.ofString target).isRoot = true

/-- With these keys in flight, last first, a walk can be at the schema. -/
inductive Stands (d : Document) : List String → Document → Prop
  | root : Stands d [] d
  | applied {path : List String} {keywords : Keywords Unit} {s : Document}
    (stand : Stands d path (.object () keywords))
    (mem : s ∈ Keywords.applied keywords) :
    Stands d path s
  | place {path : List String} {keywords : Keywords Unit} {target : String}
    {place : Document}
    (stand : Stands d path (.object () keywords))
    (refers : Keywords.string? keywords ReferenceKind.static.keyword = some target)
    (straight : ¬ Circular path target)
    (located : d.locate (ReferenceParts.ofString target).fragment = .ok place) :
    Stands d (localKey target :: path) place

/-- A walk can come upon the `$ref` with these keys in flight. -/
def Meets (d : Document) (path : List String) (target : String) : Prop :=
  ∃ keywords, d.Stands path (.object () keywords) ∧
    Keywords.string? keywords ReferenceKind.static.keyword = some target

/-- The ways for a walk to fail. -/
inductive Fails (d : Document) (setup : Setup) : DerefError → Prop
  | circular {path : List String} {target : String} (meets : d.Meets path target)
    (circular : Circular path target)
    (keeps : setup.settings.cyclePolicy.keepsEdges = false) :
    Fails d setup (.circular target)
  | tooDeep {path : List String} {target : String} (meets : d.Meets path target)
    (fresh : localKey target ∉ path) (full : path.length = setup.settings.maxDepth) :
    Fails d setup (.tooDeep setup.settings.maxDepth target)
  | lost {path : List String} {target : String} {error : DerefError}
    (meets : d.Meets path target)
    (located : d.locate (ReferenceParts.ofString target).fragment = .error error) :
    Fails d setup error

/-- A key that a walk can record: that of a circular reference. -/
def Keeps (d : Document) (key : String) : Prop :=
  ∃ path target, d.Meets path target ∧ Circular path target ∧ key = localKey target

/-- All keys that come to be recorded are of that kind. -/
def Adds (d : Document) (before after : State) : Prop :=
  ∀ key ∈ after.memo.edges, key ∈ before.memo.edges ∨ d.Keeps key

variable {d : Document}

theorem Adds.of_eq {before after : State} (h : after.memo.edges = before.memo.edges) :
    d.Adds before after := by
  intro key hkey
  exact .inl (h ▸ hkey)

theorem Adds.trans {a b c : State} (hab : d.Adds a b) (hbc : d.Adds b c) :
    d.Adds a c := by
  intro key hkey
  rcases hbc key hkey with hkey | hkeeps
  · exact hab key hkey
  · exact .inr hkeeps

theorem Adds.congr {a b c : State} (hab : d.Adds a b)
    (h : c.memo.edges = b.memo.edges) :
    d.Adds a c := hab.trans (.of_eq h)

theorem Stands.encloses {path : List String} {n : Document} (h : d.Stands path n) :
    d.Encloses n := by
  induction h with
  | root => exact List.Subset.refl _
  | applied _ mem ih => exact ih.applied mem
  | place _ _ _ located _ => exact Document.objects_of_locate located

theorem Meets.refersTo {path : List String} {target : String}
    (h : d.Meets path target) :
    d.toJson.RefersTo target := by
  obtain ⟨keywords, stand, refers⟩ := h
  exact stand.encloses.refersTo refers

/-- The keys in flight are all different, and each is the key of a `$ref` of the
document. -/
theorem Stands.path {path : List String} {n : Document} (h : d.Stands path n) :
    path.Nodup ∧ ∀ key ∈ path, ∃ target, key = localKey target ∧
      d.toJson.RefersTo target := by
  induction h with
  | root => exact ⟨List.nodup_nil, by simp⟩
  | applied _ _ ih => exact ih
  | @place path keywords target place stand refers straight located ih =>
    obtain ⟨hnodup, hkeys⟩ := ih
    have hfresh : localKey target ∉ path := fun hmem => straight (.inl hmem)
    exact ⟨List.nodup_cons.mpr ⟨hfresh, hnodup⟩,
      List.forall_mem_cons.mpr ⟨⟨target, rfl, stand.encloses.refersTo refers⟩, hkeys⟩⟩

/-- The references in flight and one more are no more than the document has. -/
theorem Meets.length_lt {path : List String} {target : String}
    (h : d.Meets path target) (hfresh : localKey target ∉ path)
    {targets : List String}
    (htargets : ∀ target, d.toJson.RefersTo target → target ∈ targets) :
    path.length < targets.length := by
  have hrefers := h.refersTo
  obtain ⟨keywords, stand, _⟩ := h
  obtain ⟨hnodup, hkeys⟩ := stand.path
  have hsubset : localKey target :: path ⊆ targets.map localKey := by
    intro key hkey
    rcases List.mem_cons.mp hkey with rfl | hkey
    · exact List.mem_map_of_mem (htargets target hrefers)
    · obtain ⟨other, rfl, hother⟩ := hkeys key hkey
      exact List.mem_map_of_mem (htargets other hother)
  have hle :=
    (List.subperm_of_subset (List.nodup_cons.mpr ⟨hfresh, hnodup⟩) hsubset).length_le
  rw [List.length_map, List.length_cons] at hle
  omega

end Document

/-! ## Walks -/

/-- A task at a stand of a walk. -/
def Task.Stands (d : Document) (path : List String) : Task → Prop
  | .node n => d.Stands path n.erase
  | .nodes ns => ∀ n ∈ ns, d.Stands path n.erase
  | .link keywords => d.Stands path (.object () (eraseEntries keywords))
  | .reference r => r.kind = .static ∧ d.Meets path r.target

namespace Task.Stands

variable {d : Document} {path : List String} {keywords : Keywords NodeId}

theorem applied (h : (Task.link keywords).Stands d path) :
    (Task.nodes (Keywords.applied keywords)).Stands d path := by
  intro n hn
  refine Document.Stands.applied h ?_
  rw [Keywords.applied_erase]
  exact List.mem_map_of_mem hn

theorem reference (h : (Task.link keywords).Stands d path) (hlocal : d.toJson.IsLocal)
    {r : Reference} (hreference : Keywords.reference? keywords = some r) :
    r.effective = r ∧ (Task.reference r).Stands d path := by
  obtain ⟨heffective, refers, hkind, _⟩ :=
    Task.Inside.effective hlocal (Document.Stands.encloses h) hreference
  rw [← Keywords.string?_erase] at refers
  exact ⟨heffective, hkind, _, h, refers⟩

end Task.Stands

variable {setup : Setup} {Fair : Fairness} {hops : Nat} {scope : Scope}
  {task : Task} {state after : State} {result : Except DerefError Answer}
  {reach : Reach}

/-- In a local document a `$ref` is circular if it is so with the keys in flight. -/
theorem Document.circular_iff {d : Document} {scope : Scope} {target : String}
    (h : scope.Within d) :
    Document.Circular scope.path target ↔
      scope.view.circles ⟨.static, target⟩ = true := by
  simp only [Document.Circular, View.circles, Bool.or_eq_true, Scope.view_onPath,
    Scope.view_base, h.base, Scope.onPath, List.contains_iff_mem]
  rfl

/-- Behind a reference that is not circular the walk is at its place, with one key
more in flight. -/
theorem Task.Stands.expanded {d : Document} (hlocal : d.toJson.IsLocal)
    {setup : Setup} {scope : Scope} {reference : Reference} {run after : Run}
    {destination : Destination NodeId} {hops limit : Nat}
    (h : (Task.reference reference).Stands d scope.path) (hscope : scope.Within d)
    (straight : scope.view.circles reference = false)
    (route : reference.Arrives setup scope run (.ok destination) after)
    (hlength : scope.path.length + (hops + 1) = limit) :
    (Task.node destination.place).Stands d (reference.key scope.base :: scope.path) ∧
      (∀ key, (scope.descend key destination.root destination.base).Within d) ∧
      (reference.key scope.base :: scope.path).length + hops = limit := by
  obtain ⟨hkind, hmeets⟩ := h
  obtain ⟨hlocated, _, hwithin⟩ :=
    route.inside hscope hkind (hmeets.refersTo.uri hlocal)
  obtain ⟨kind, target⟩ := reference
  subst hkind
  obtain ⟨keywords, stand, refers⟩ := hmeets
  have hstraight : ¬ Document.Circular scope.path target := by
    rw [Document.circular_iff hscope, straight]
    simp
  refine ⟨?_, hwithin, ?_⟩
  · rw [hscope.base]
    exact .place stand refers hstraight hlocated
  · rw [List.length_cons]
    omega

/-- That in a document a task fails only as it can, and records only what it can.
The references in flight and the hops left make up the limit. -/
def Document.Explains (d : Document) (setup : Setup) (hops : Nat) (scope : Scope)
    (task : Task) (state : State) (result : Except DerefError Answer)
    (after : State) : Prop :=
  scope.Within d → task.Stands d scope.path →
    scope.path.length + hops = setup.settings.maxDepth →
      (∀ error, result = .error error → d.Fails setup error) ∧ d.Adds state after

namespace Document.Explains

variable {d : Document} {middle : State} {error : DerefError} {answer : Answer}

/-- Steps that succeed and record nothing. -/
theorem of_edges_eq (h : after.memo.edges = state.memo.edges) :
    d.Explains setup hops scope task state (.ok answer) after := by
  intro _ _ _
  exact ⟨by rintro error ⟨⟩, .of_eq h⟩

/-! ### Lists of schemas -/

section

variable {node head : Node} {nodes tail : List Node}

theorem headFailed
    (ih : d.Explains setup hops scope (.node node) state (.error error) after) :
    d.Explains setup hops scope (.nodes (node :: nodes)) state (.error error)
      after := by
  intro hscope hstands hlength
  exact ih hscope (hstands _ List.mem_cons_self) hlength

theorem tailFailed
    (ihhead : d.Explains setup hops scope (.node node) state
      (.ok (.node head)) middle)
    (ihtail : d.Explains setup hops scope (.nodes nodes) middle
      (.error error) after) :
    d.Explains setup hops scope (.nodes (node :: nodes)) state (.error error)
      after := by
  intro hscope hstands hlength
  obtain ⟨hfirst, hrest⟩ := List.forall_mem_cons.mp hstands
  obtain ⟨_, hhead⟩ := ihhead hscope hfirst hlength
  obtain ⟨hfails, htail⟩ := ihtail hscope hrest hlength
  exact ⟨hfails, hhead.trans htail⟩

theorem cons
    (ihhead : d.Explains setup hops scope (.node node) state
      (.ok (.node head)) middle) (ihtail :
        d.Explains setup hops scope (.nodes nodes) middle (.ok (.nodes tail)) after) :
    d.Explains setup hops scope (.nodes (node :: nodes)) state
      (.ok (.nodes (head :: tail))) after := by
  intro hscope hstands hlength
  obtain ⟨hfirst, hrest⟩ := List.forall_mem_cons.mp hstands
  obtain ⟨_, hhead⟩ := ihhead hscope hfirst hlength
  obtain ⟨_, htail⟩ := ihtail hscope hrest hlength
  exact ⟨by rintro error ⟨⟩, hhead.trans htail⟩

end

/-! ### Objects and links -/

section

variable {id : NodeId} {keywords : Keywords NodeId} {outcome : Outcome}
  {results : List Node} {node : Node} {next : NodeId} {reference : Reference}

theorem unlinked (hlocal : d.toJson.IsLocal)
    (ih : d.Explains setup hops (scope.enter id keywords) (.link keywords) state
      (.error error) after) :
    d.Explains setup hops scope (.node (.object id keywords)) state (.error error)
      after := by
  intro hscope hstands hlength
  rw [Task.Stands, Schema.erase_object] at hstands
  rw [Explains, scope.path_enter] at ih
  exact ih (hscope.enter hlocal id hstands.encloses) hstands hlength

theorem unfinished (hlocal : d.toJson.IsLocal)
    (ihlink : d.Explains setup hops (scope.enter id keywords) (.link keywords) state
      (.ok (.outcome outcome)) middle)
    (ihmembers : d.Explains setup hops (scope.enter id keywords)
      (.nodes (Keywords.applied keywords)) middle (.error error) after) :
    d.Explains setup hops scope (.node (.object id keywords)) state (.error error)
      after := by
  intro hscope hstands hlength
  rw [Task.Stands, Schema.erase_object] at hstands
  rw [Explains, scope.path_enter] at ihlink ihmembers
  have hinner := hscope.enter hlocal id hstands.encloses
  obtain ⟨_, hlink⟩ := ihlink hinner hstands hlength
  obtain ⟨hfails, hmembers⟩ := ihmembers hinner (.applied hstands) hlength
  exact ⟨hfails, hlink.trans hmembers⟩

theorem concluded (hlocal : d.toJson.IsLocal)
    (ihlink : d.Explains setup hops (scope.enter id keywords) (.link keywords) state
      (.ok (.outcome outcome)) middle)
    (ihmembers : d.Explains setup hops (scope.enter id keywords)
      (.nodes (Keywords.applied keywords)) middle (.ok (.nodes results)) after) :
    d.Explains setup hops scope (.node (.object id keywords)) state (.ok (.node node))
      ({ after with next }.noteNode (.object id keywords) node reach) := by
  intro hscope hstands hlength
  rw [Task.Stands, Schema.erase_object] at hstands
  rw [Explains, scope.path_enter] at ihlink ihmembers
  have hinner := hscope.enter hlocal id hstands.encloses
  obtain ⟨_, hlink⟩ := ihlink hinner hstands hlength
  obtain ⟨_, hmembers⟩ := ihmembers hinner (.applied hstands) hlength
  exact ⟨by rintro error ⟨⟩,
    (hlink.trans hmembers).congr (Memo.edges_rememberNode ..)⟩

theorem referring (hlocal : d.toJson.IsLocal)
    (some : Keywords.reference? keywords = some reference)
    (ih : d.Explains setup hops scope (.reference reference.effective)
      (state.warned keywords reference.kind) result after) :
    d.Explains setup hops scope (.link keywords) state result after := by
  intro hscope hstands hlength
  obtain ⟨heffective, hreference⟩ := Task.Stands.reference hstands hlocal some
  rw [heffective] at ih
  exact ih hscope hreference hlength

end

/-! ### References -/

section

variable {reference : Reference} {destination : Destination NodeId} {run : Run}
  {node : Node}

theorem circled (circular : scope.onPath (reference.key scope.base) = true ∨
      0 < hops ∧ reference.isSelf scope.view = true) :
    d.Explains setup hops scope (.reference reference) state (.ok (.outcome .kept))
      (state.recordEdge (reference.key scope.base)) := by
  rintro hscope ⟨hkind, hmeets⟩ _
  obtain ⟨kind, target⟩ := reference
  subst hkind
  have hcircular := (circular_iff hscope).mpr (View.circles_of_circular circular)
  refine ⟨by rintro error ⟨⟩, fun key hkey => ?_⟩
  rcases Memo.mem_insertKey.mp hkey with rfl | hkey
  · rw [hscope.base]
    exact .inr ⟨scope.path, target, hmeets, hcircular, rfl⟩
  · exact .inl hkey

theorem circular (circular : scope.onPath (reference.key scope.base) = true ∨
      0 < hops ∧ reference.isSelf scope.view = true)
    (keeps : setup.settings.cyclePolicy.keepsEdges = false) :
    d.Explains setup hops scope (.reference reference) state
      (.error (.circular reference.target)) state := by
  rintro hscope ⟨hkind, hmeets⟩ _
  obtain ⟨kind, target⟩ := reference
  subst hkind
  have hcircular := (circular_iff hscope).mpr (View.circles_of_circular circular)
  refine ⟨?_, .of_eq rfl⟩
  rintro error ⟨⟩
  exact .circular hmeets hcircular keeps

theorem tooDeep (straight : scope.onPath (reference.key scope.base) = false) :
    d.Explains setup 0 scope (.reference reference) state
      (.error (.tooDeep setup.settings.maxDepth reference.target)) state := by
  rintro hscope ⟨hkind, hmeets⟩ hlength
  obtain ⟨kind, target⟩ := reference
  subst hkind
  rw [hscope.base] at straight
  have hfresh : localKey target ∉ scope.path := by
    intro hmem
    have honpath : scope.onPath (localKey target) = true :=
      List.contains_iff_mem.mpr hmem
    exact Bool.noConfusion (honpath.symm.trans straight)
  refine ⟨?_, .of_eq rfl⟩
  rintro error ⟨⟩
  exact .tooDeep hmeets hfresh hlength

theorem lost (hlocal : d.toJson.IsLocal)
    (route : reference.Arrives setup scope state.toRun (.error error) run) :
    d.Explains setup hops scope (.reference reference) state (.error error)
      ⟨run, state.notes⟩ := by
  rintro hscope ⟨hkind, hmeets⟩ _
  have harrives := route.local hscope hkind (hmeets.refersTo.uri hlocal)
  refine ⟨?_, .of_eq (congrArg Memo.edges route.memo_eq)⟩
  rintro error ⟨⟩
  refine .lost hmeets ?_
  cases hlocated : d.locate reference.parts.fragment with
  | ok place =>
    rw [hlocated] at harrives
    cases harrives
  | error error =>
    rw [hlocated] at harrives
    cases harrives
    exact hlocated

theorem unexpanded (hlocal : d.toJson.IsLocal)
    (straight : scope.view.circles reference = false)
    (route : reference.Arrives setup scope state.toRun (.ok destination) run)
    (ih : d.Explains setup hops
      (scope.descend (reference.key scope.base) destination.root destination.base)
      (.node destination.place) (State.recordExpansion ⟨run, state.notes⟩)
      (.error error) after) :
    d.Explains setup (hops + 1) scope (.reference reference) state (.error error)
      after := by
  rintro hscope hstands hlength
  obtain ⟨hplace, hwithin, hlength'⟩ :=
    hstands.expanded hlocal hscope straight route hlength
  obtain ⟨hfails, hadds⟩ := ih (hwithin _) hplace hlength'
  exact ⟨hfails, (Adds.of_eq (State.edges_route route)).trans hadds⟩

theorem expanded (hlocal : d.toJson.IsLocal)
    (straight : scope.view.circles reference = false)
    (route : reference.Arrives setup scope state.toRun (.ok destination) run)
    (ih : d.Explains setup hops
      (scope.descend (reference.key scope.base) destination.root destination.base)
      (.node destination.place) (State.recordExpansion ⟨run, state.notes⟩)
      (.ok (.node node)) after) :
    d.Explains setup (hops + 1) scope (.reference reference) state
      (.ok (.outcome (.target node)))
      (after.noteReference reference scope.base node reach) := by
  rintro hscope hstands hlength
  obtain ⟨hplace, hwithin, hlength'⟩ :=
    hstands.expanded hlocal hscope straight route hlength
  obtain ⟨_, hadds⟩ := ih (hwithin _) hplace hlength'
  have hroute := (Adds.of_eq (State.edges_route route)).trans hadds
  exact ⟨by rintro error ⟨⟩, hroute.congr (Memo.edges_rememberTarget ..)⟩

end

end Document.Explains

/-- A walk in a local document fails only as it can, and records what it can. -/
theorem Walk.explained {d : Document} (hlocal : d.toJson.IsLocal)
    (walk : Walk setup Fair hops scope task state result after reach) :
    d.Explains setup hops scope task state result after := by
  induction walk with
  | bool | nil | unreferring => exact .of_edges_eq rfl
  | recalled => exact .of_edges_eq (Memo.edges_recallNode ..)
  | reused => exact .of_edges_eq (Memo.edges_recallTarget ..)
  | unlinked _ _ ih => exact .unlinked hlocal ih
  | unfinished _ _ _ ihlink ihmembers => exact .unfinished hlocal ihlink ihmembers
  | concluded _ _ _ _ _ ihlink ihmembers => exact .concluded hlocal ihlink ihmembers
  | headFailed _ ih => exact .headFailed ih
  | tailFailed _ _ ihhead ihtail => exact .tailFailed ihhead ihtail
  | cons _ _ ihhead ihtail => exact .cons ihhead ihtail
  | referring some _ ih => exact .referring hlocal some ih
  | circled _ circular _ => exact .circled circular
  | circular _ circular keeps => exact .circular circular keeps
  | tooDeep _ straight => exact .tooDeep straight
  | lost _ _ route => exact .lost hlocal route
  | unexpanded _ straight route _ ih => exact .unexpanded hlocal straight route ih
  | expanded _ straight route _ ih => exact .expanded hlocal straight route ih

/-- A call on a local document fails only as its walk can, and keeps only what its
walk can. -/
theorem dereference_explained (setup : Setup) {session : Session}
    {schemas : List Node} {schema : Node} (h : session.Holds schemas)
    (hschema : schema ∈ schemas) (hlocal : schema.erase.toJson.IsLocal) :
    (∀ error, (dereference setup session schema).result = .error error →
      schema.erase.Fails setup error) ∧
    ∀ report, (dereference setup session schema).result = .ok report →
      ∀ key ∈ report.edges, schema.erase.Keeps key := by
  obtain ⟨outcome, after, reach, walk, _, _⟩ := exists_callWalk setup h hschema
  rw [walk.dereference_eq]
  have hscope : (Scope.start schema none).Within schema.erase := ⟨rfl, rfl⟩
  obtain ⟨hfails, hadds⟩ := Walk.explained hlocal walk hscope .root (Nat.zero_add _)
  constructor
  · intro error herror
    cases outcome with
    | ok node => cases herror
    | error error' =>
      cases herror
      exact hfails error rfl
  · intro report hreport key hkey
    cases outcome with
    | error error => cases hreport
    | ok node =>
      cases hreport
      rcases hadds key hkey with hbegin | hkeeps
      · -- nothing is recorded when a call begins
        cases hbegin
      · exact hkeeps

/-! ## Pointed documents -/

/-- `#`, alone or with a slash behind it. -/
def Pointer.isFragment (target : String) : Bool :=
  match target.toList with
  | ['#'] | '#' :: '/' :: _ => true
  | _ => false

/-- A local object whose `$ref`, if it has one, is a pointer into the document. -/
def Members.IsPointed (members : Members Json) : Prop :=
  members.IsLocal ∧
    ∀ target ∈ text? ReferenceKind.static.keyword members, Pointer.isFragment
      target = true

/-- All objects in a value are pointed. -/
def Json.IsPointed (value : Json) : Prop :=
  ∀ members ∈ value.objects, Members.IsPointed members

instance (members : Members Json) : Decidable members.IsPointed :=
  inferInstanceAs (Decidable (_ ∧ _))

instance (value : Json) : Decidable value.IsPointed :=
  inferInstanceAs (Decidable (∀ members ∈ value.objects, Members.IsPointed members))

/-- The different `$ref`s of all objects in a value. -/
def Json.targets (value : Json) : List String :=
  (value.objects.filterMap (Members.text? ReferenceKind.static.keyword)).dedup

namespace Json

variable {value : Json} {target : String}

theorem IsPointed.isLocal (h : value.IsPointed) :
    value.IsLocal := fun members hmem => (h members hmem).1

theorem RefersTo.isFragment (h : value.RefersTo target) (hpointed : value.IsPointed) :
    Pointer.isFragment target = true := by
  obtain ⟨members, hmem, hget⟩ := h
  exact (hpointed members hmem).2 target (Members.text?_eq_some.mpr hget)

theorem RefersTo.mem_targets (h : value.RefersTo target) :
    target ∈ value.targets := by
  obtain ⟨members, hmem, hget⟩ := h
  rw [targets, List.mem_dedup, List.mem_filterMap]
  exact ⟨members, hmem, Members.text?_eq_some.mpr hget⟩

end Json

/-- Whether it is taken apart or read as a pointer, such a reference names the same
place. -/
theorem Document.locate_eq_ok_iff {value : Json} {d : Document}
    (hd : Schema.ofJson? value = some d) {target : String}
    (h : Pointer.isFragment target = true) {place : Document} :
    d.locate (ReferenceParts.ofString target).fragment = .ok place ↔
      d.at target = .ok place := by
  rw [Pointer.isFragment] at h
  split at h
  · rename_i hchars
    obtain rfl : target = "#" := String.toList_injective hchars
    exact Iff.rfl
  · rename_i rest hchars
    have hfragment : (ReferenceParts.ofString target).fragment =
        some (String.ofList ('/' :: rest)) := by
      simp [ReferenceParts.ofString, hchars]
    have hlocate : d.locate (some (String.ofList ('/' :: rest))) =
        d.at (String.ofList ('/' :: rest)) := by
      simp [locate]
    have htokens : Pointer.tokens (String.ofList ('/' :: rest)) = Pointer.tokens
        target := by
      simp [Pointer.tokens, hchars, Pointer.written, Pointer.withoutHash]
    rw [hfragment, hlocate, Schema.at_eq_ok_iff hd, Schema.at_eq_ok_iff hd, htokens]
  · cases h

/-! ## A limit that is never met -/

/-- For a document all whose references are pointers to places in it, and with a
limit of the depth that is no smaller than the number of its references, a call that
keeps circular references succeeds, and any other succeeds or fails at a circular
reference. -/
theorem dereference_within_limit (setup : Setup) {session : Session}
    {schemas : List Node} {schema : Node} (h : session.Holds schemas)
    (hschema : schema ∈ schemas) {value : Json}
    (hvalue : Schema.ofJson? value = some schema.erase) (hpointed : value.IsPointed)
    (hplaces : ∀ target, value.RefersTo target →
      ∃ place, schema.erase.at target = .ok place)
    (hlimit : value.targets.length ≤ setup.settings.maxDepth) :
    (setup.settings.cyclePolicy ≠ .error →
      ∃ report, (dereference setup session schema).result = .ok report) ∧
    ((∃ report, (dereference setup session schema).result = .ok report) ∨
      ∃ target, (dereference setup session schema).result =
        .error (.circular target)) := by
  have hjson : schema.erase.toJson = value := Schema.toJson_of_ofJson? hvalue
  subst hjson
  have hfails : ∀ error, schema.erase.Fails setup error →
      (∃ target, error = .circular target) ∧ setup.settings.cyclePolicy = .error := by
    intro error herror
    cases herror with
    | circular meets circular keeps =>
      refine ⟨⟨_, rfl⟩, ?_⟩
      cases hpolicy : setup.settings.cyclePolicy with
      | error => rfl
      | ignore | lazy => simp [hpolicy, CyclePolicy.keepsEdges] at keeps
    | @tooDeep path target meets fresh full =>
      -- one reference more is in flight than there are
      have hlt := meets.length_lt fresh fun target htarget => htarget.mem_targets
      omega
    | lost meets located =>
      exfalso
      obtain ⟨place, hplace⟩ := hplaces _ meets.refersTo
      rw [← Document.locate_eq_ok_iff hvalue (meets.refersTo.isFragment hpointed),
        located] at hplace
      cases hplace
  obtain ⟨hexplained, _⟩ := dereference_explained setup h hschema hpointed.isLocal
  cases hresult : (dereference setup session schema).result with
  | ok report => exact ⟨fun _ => ⟨report, rfl⟩, .inl ⟨report, rfl⟩⟩
  | error error =>
    obtain ⟨⟨target, rfl⟩, hpolicy⟩ := hfails error (hexplained error hresult)
    exact ⟨fun hkeeps => absurd hpolicy hkeeps, .inr ⟨target, rfl⟩⟩

/-- A list whose tail is a list again, and a property that is one. -/
def listProperty : Json :=
  .obj [("$defs", .obj [("list", .obj [("properties", .obj [("tail",
      .obj [("$ref", .str "#/$defs/list")])])])]),
    ("properties", .obj [("head", .obj [("$ref", .str "#/$defs/list")])])]

/-- The same as a schema. -/
def listSchema : Document := (Schema.ofJson? listProperty).getD (.bool true)

theorem dereference_within_limit_listProperty :
    listProperty.targets = ["#/$defs/list"] ∧
    (∃ report, (dereference ⟨{ maxDepth := 1, cyclePolicy := .ignore }, .none⟩
      (Session.empty.mint listSchema).2 (Session.empty.mint listSchema).1).result =
        .ok report) ∧
    ((∃ report, (dereference ⟨{ maxDepth := 1 }, .none⟩
        (Session.empty.mint listSchema).2
        (Session.empty.mint listSchema).1).result = .ok report) ∨
      ∃ target, (dereference ⟨{ maxDepth := 1 }, .none⟩
        (Session.empty.mint listSchema).2
        (Session.empty.mint listSchema).1).result = .error (.circular target)) := by
  have htargets : listProperty.targets = ["#/$defs/list"] := by decide +kernel
  have hpointed : listProperty.IsPointed := by decide +kernel
  have hvalue : Schema.ofJson? listProperty =
      some (Session.empty.mint listSchema).1.erase := rfl
  have hplaces : ∀ target, listProperty.RefersTo target →
      ∃ place, (Session.empty.mint listSchema).1.erase.at target = .ok place := by
    intro target htarget
    have hmem := htarget.mem_targets
    rw [htargets, List.mem_singleton] at hmem
    subst hmem
    exact ⟨_, rfl⟩
  have hlimit : listProperty.targets.length ≤ 1 := by rw [htargets]; decide
  have hholds := Session.holds_empty.mint listSchema
  exact ⟨htargets,
    (dereference_within_limit ⟨{ maxDepth := 1, cyclePolicy := .ignore }, .none⟩
      hholds List.mem_cons_self hvalue hpointed hplaces hlimit).1 (by decide),
    (dereference_within_limit ⟨{ maxDepth := 1 }, .none⟩ hholds
      List.mem_cons_self hvalue hpointed hplaces hlimit).2⟩

end SchemaDeref
