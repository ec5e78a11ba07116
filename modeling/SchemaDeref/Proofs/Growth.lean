import SchemaDeref.Proofs.Calls

/-!
# What a walk only adds to

A catalog keeps what it has, the keys of kept references stay, and they stay in
ascending order.
-/

namespace SchemaDeref

/-! ## Keys -/

namespace Memo

theorem mem_insertKey {key other : String} {keys : List String} :
    other ∈ insertKey key keys ↔ other = key ∨ other ∈ keys := by
  induction keys with
  | nil => simp [insertKey]
  | cons k rest ih =>
    simp only [insertKey]
    split
    · simp
    · split
      · rename_i heq
        subst heq
        simp
      · simp only [List.mem_cons, ih]
        exact or_left_comm

theorem pairwise_insertKey {key : String} {keys : List String}
    (h : keys.Pairwise (· < ·)) :
    (insertKey key keys).Pairwise (· < ·) := by
  induction keys with
  | nil => simp [insertKey]
  | cons k rest ih =>
    obtain ⟨hk, hrest⟩ := List.pairwise_cons.mp h
    simp only [insertKey]
    split
    · rename_i hlt
      refine List.pairwise_cons.mpr ⟨?_, h⟩
      intro other hother
      rcases List.mem_cons.mp hother with rfl | hother
      · exact hlt
      · exact String.lt_trans hlt (hk other hother)
    · rename_i hnlt
      split
      · exact h
      · rename_i hne
        refine List.pairwise_cons.mpr ⟨?_, ih hrest⟩
        intro other hother
        rcases mem_insertKey.mp hother with rfl | hother
        · exact Std.lt_of_le_of_ne (String.not_lt.mp hnlt) hne
        · exact hk other hother

/-- A key that is there is not added again. -/
theorem insertKey_of_mem {key : String} {keys : List String}
    (h : keys.Pairwise (· < ·)) (hkey : key ∈ keys) : insertKey key keys = keys := by
  induction keys with
  | nil => simp at hkey
  | cons k rest ih =>
    obtain ⟨hk, hrest⟩ := List.pairwise_cons.mp h
    simp only [insertKey]
    split
    · rename_i hlt
      rcases List.mem_cons.mp hkey with rfl | hmem
      · exact absurd hlt (String.lt_irrefl key)
      · exact absurd (String.lt_trans hlt (hk key hmem)) (String.lt_irrefl key)
    · split
      · rfl
      · rename_i hne
        rcases List.mem_cons.mp hkey with rfl | hmem
        · exact absurd rfl hne
        · rw [ih hrest hmem]

end Memo

/-! ## Worlds -/

theorem World.within_fetch (loader : Loader) (name target : String) (world : World) :
    world.catalog.Within (world.fetch loader name target).2.catalog := by
  simp only [World.fetch]
  split
  · exact .refl _
  · split
    · exact Catalog.within_register _ _ _
    · exact .refl _
    · exact .refl _
    · exact .refl _

/-- A way to a destination keeps what the catalog has. -/
theorem View.within_destination (loader : Loader) (view : View)
    (reference : Reference) (world : World) :
    world.catalog.Within (view.destination loader reference world).2.catalog := by
  simp only [View.destination]
  split
  · exact .refl _
  · rename_i uri huri
    have hfetch :=
      World.within_fetch loader (Uri.joinName view.base uri) reference.target world
    split
    · rename_i document after heq
      rw [heq] at hfetch
      exact hfetch
    · rename_i error after heq
      rw [heq] at hfetch
      exact hfetch

/-! ## Walks -/

/-- What holds between the states before and after a walk. -/
structure State.Grows (before after : State) : Prop where
  catalog : before.toRun.world.catalog.Within after.toRun.world.catalog
  edges : before.memo.edges ⊆ after.memo.edges
  sorted : before.memo.edges.Pairwise (· < ·) → after.memo.edges.Pairwise (· < ·)
  notes : before.notes ⊆ after.notes

namespace State.Grows

theorem refl (state : State) :
    state.Grows state := ⟨.refl _, fun _ h => h, id, fun _ h => h⟩

theorem trans {a b c : State} (hab : a.Grows b) (hbc : b.Grows c) : a.Grows c where
  catalog := hab.catalog.trans hbc.catalog
  edges := fun _ h => hbc.edges (hab.edges h)
  sorted := hbc.sorted ∘ hab.sorted
  notes := fun _ h => hbc.notes (hab.notes h)

theorem of_edges_eq {state after : State} (hcatalog : after.catalog = state.catalog)
    (hedges : after.memo.edges = state.memo.edges)
    (hnotes : state.notes ⊆ after.notes) :
    state.Grows after := by
  refine ⟨?_, ?_, ?_, hnotes⟩
  · simp only [Run.world, hcatalog]
    exact .refl _
  · rw [hedges]
    exact List.Subset.refl _
  · rw [hedges]
    exact id

end State.Grows

namespace Memo

@[simp] theorem edges_recallNode (memo : Memo) (node : Node) :
    (memo.recallNode node).2.edges = memo.edges := by
  obtain ⟨stats, h⟩ := memo.exists_recallNode node
  rw [h]

@[simp] theorem edges_recallTarget (memo : Memo) (reference : Reference)
    (base : Option String) :
    (memo.recallTarget reference base).2.edges = memo.edges := by
  obtain ⟨stats, h⟩ := memo.exists_recallTarget reference base
  rw [h]

@[simp] theorem edges_rememberNode (memo : Memo) (node result : Node) :
    (memo.rememberNode node result).edges = memo.edges := by
  obtain ⟨nodes, h⟩ := memo.exists_rememberNode node result
  rw [h]

@[simp] theorem edges_rememberTarget (memo : Memo) (reference : Reference)
    (base : Option String) (result : Node) :
    (memo.rememberTarget reference base result).edges = memo.edges := by
  obtain ⟨references, h⟩ := memo.exists_rememberTarget reference base result
  rw [h]

end Memo

namespace State

variable (state : State)

theorem grows_lookNode (node : Node) : state.Grows (state.lookNode node) :=
  .of_edges_eq rfl (Memo.edges_recallNode ..) fun _ h => h

theorem grows_lookReference (reference : Reference) (base : Option String) :
    state.Grows (state.lookReference reference base) :=
  .of_edges_eq rfl (Memo.edges_recallTarget ..) fun _ h => h

theorem grows_noteNode (node result : Node) (reach : Reach) (next : NodeId) :
    state.Grows ({ state with next }.noteNode node result reach) :=
  .of_edges_eq rfl (Memo.edges_rememberNode ..) fun _ h => List.mem_cons_of_mem _ h

theorem grows_noteReference (reference : Reference) (base : Option String)
    (result : Node) (reach : Reach) :
    state.Grows (state.noteReference reference base result reach) := by
  refine .of_edges_eq rfl (Memo.edges_rememberTarget ..) ?_
  simp only [noteReference]
  split
  · exact fun _ h => List.mem_cons_of_mem _ h
  · exact fun _ h => h

theorem grows_recordEdge (key : String) : state.Grows (state.recordEdge key) where
  catalog := .refl _
  edges := fun _ h => Memo.mem_insertKey.mpr (.inr h)
  sorted := Memo.pairwise_insertKey
  notes := fun _ h => h

theorem grows_recordExpansion : state.Grows state.recordExpansion :=
  .of_edges_eq rfl rfl fun _ h => h

theorem grows_warned (keywords : Keywords NodeId) (followed : ReferenceKind) :
    state.Grows (state.warned keywords followed) :=
  .of_edges_eq rfl rfl fun _ h => h

theorem grows_route {setup : Setup} {scope : Scope} {reference : Reference}
    {outcome : Except DerefError (Destination NodeId)} {run : Run}
    (route : reference.Arrives setup scope state.toRun outcome run) :
    state.Grows ⟨run, state.notes⟩ where
  catalog := by
    have h := View.within_destination setup.loader scope.view reference
        state.toRun.world
    rw [route.erase_eq] at h
    exact h
  edges := by
    rw [route.memo_eq]
    exact List.Subset.refl _
  sorted := by
    rw [route.memo_eq]
    exact id
  notes := fun _ h => h

variable {state}

/-- On the way to a target no key is recorded. -/
theorem edges_route {setup : Setup} {scope : Scope} {reference : Reference}
    {outcome : Except DerefError (Destination NodeId)} {run : Run}
    (route : reference.Arrives setup scope state.toRun outcome run) :
    (recordExpansion ⟨run, state.notes⟩).memo.edges = state.memo.edges := by
  show run.memo.edges = state.memo.edges
  rw [route.memo_eq]

end State

variable {setup : Setup} {Fair : Fairness} {hops : Nat} {scope : Scope}
  {task : Task} {state after : State} {result : Except DerefError Answer}
  {reach : Reach}

theorem Walk.grows (walk : Walk setup Fair hops scope task state result after reach) :
    state.Grows after := by
  induction walk with
  | bool | nil | unreferring | circular | tooDeep => exact .refl _
  | recalled => exact State.grows_lookNode ..
  | unlinked _ _ ih => exact ih
  | unfinished _ _ _ ihlink ihmembers => exact ihlink.trans ihmembers
  | concluded _ _ _ _ _ ihlink ihmembers =>
    exact (ihlink.trans ihmembers).trans (State.grows_noteNode ..)
  | headFailed _ ih => exact ih
  | tailFailed _ _ ihhead ihtail => exact ihhead.trans ihtail
  | cons _ _ ihhead ihtail => exact ihhead.trans ihtail
  | referring _ _ ih => exact (State.grows_warned ..).trans ih
  | reused => exact State.grows_lookReference ..
  | circled => exact State.grows_recordEdge ..
  | lost _ _ route => exact State.grows_route _ route
  | unexpanded _ _ route _ ih =>
    exact ((State.grows_route _ route).trans (State.grows_recordExpansion _)).trans ih
  | expanded _ _ route _ ih =>
    exact (((State.grows_route _ route).trans (State.grows_recordExpansion _)).trans
      ih).trans
      (State.grows_noteReference ..)

/-- Where circular references are failures, no key is recorded. -/
theorem Walk.edges_eq
    (walk : Walk setup Fair hops scope task state result after reach)
    (hkeeps : setup.settings.cyclePolicy.keepsEdges = false) :
    after.memo.edges = state.memo.edges := by
  induction walk with
  | bool | nil | unreferring | circular | tooDeep => rfl
  | recalled => exact Memo.edges_recallNode ..
  | unlinked _ _ ih => exact ih
  | unfinished _ _ _ ihlink ihmembers => exact ihmembers.trans ihlink
  | concluded _ _ _ _ _ ihlink ihmembers =>
    exact (Memo.edges_rememberNode ..).trans (ihmembers.trans ihlink)
  | headFailed _ ih => exact ih
  | tailFailed _ _ ihhead ihtail => exact ihtail.trans ihhead
  | cons _ _ ihhead ihtail => exact ihtail.trans ihhead
  | referring _ _ ih => exact ih
  | reused => exact Memo.edges_recallTarget ..
  | circled _ _ keeps => simp [hkeeps] at keeps
  | lost _ _ route => exact congrArg Memo.edges route.memo_eq
  | unexpanded _ _ route _ ih => exact ih.trans (State.edges_route route)
  | expanded _ _ route _ ih =>
    exact (Memo.edges_rememberTarget ..).trans (ih.trans (State.edges_route route))

/-- What holds between the worlds before and after every way to a destination holds
between those before and after a walk. -/
theorem Walk.worlds {P : World → World → Prop} (refl : ∀ world, P world world)
    (trans : ∀ a b c, P a b → P b c → P a c)
    (destination : ∀ (view : View) (reference : Reference) (world : World),
      P world (view.destination setup.loader reference world).2)
    (walk : Walk setup Fair hops scope task state result after reach) :
    P state.toRun.world after.toRun.world := by
  have hroute : ∀ {scope : Scope} {reference : Reference} {state : State}
      {outcome : Except DerefError (Destination NodeId)} {run : Run},
      reference.Arrives setup scope state.toRun outcome run →
        P state.toRun.world run.world := by
    intro scope reference state outcome run route
    have h := destination scope.view reference state.toRun.world
    rw [route.erase_eq] at h
    exact h
  induction walk with
  | bool | nil | unreferring | circular | tooDeep | recalled | reused | circled =>
    exact refl _
  | unlinked _ _ ih | headFailed _ ih | referring _ _ ih => exact ih
  | unfinished _ _ _ ihlink ihmembers => exact trans _ _ _ ihlink ihmembers
  | concluded _ _ _ _ _ ihlink ihmembers => exact trans _ _ _ ihlink ihmembers
  | tailFailed _ _ ihhead ihtail | cons _ _ ihhead ihtail =>
    exact trans _ _ _ ihhead ihtail
  | lost _ _ route => exact hroute route
  | unexpanded _ _ route _ ih | expanded _ _ route _ ih =>
    exact trans _ _ _ (hroute route) ih

end SchemaDeref
