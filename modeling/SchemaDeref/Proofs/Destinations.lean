import SchemaDeref.Proofs.Routes

/-!
# Destinations

Loading a document and arriving at a place keep a run laid, and without identities
they come to what the world and the view say.
-/

namespace SchemaDeref

/-! ## Laid runs -/

/-- The catalog and the requests of a run, without identities. -/
def Run.world (run : Run) : World := ⟨run.catalog.erase, run.asked⟩

/-- Every document of a session lies where the layout says, and the free identities
are free. -/
structure Session.Laid (layout : Layout) (session : Session) : Prop where
  next_eq : layout.next = session.next
  catalog : ∀ entry ∈ session.catalog.entries, entry.2.Laid layout

namespace Session.Laid

variable {layout : Layout} {session : Session}

theorem get? (h : session.Laid layout) {uri : String} {document : Node}
    (hget : session.catalog.get? uri = some document) : document.Laid layout :=
  h.catalog _ (Catalog.mem_of_get? hget)

/-- Registering a laid document keeps a catalog laid. -/
theorem mem_register {catalog : Catalog NodeId}
    (h : ∀ entry ∈ catalog.entries, entry.2.Laid layout) {document : Node}
    (hdocument : document.Laid layout) (uri : Option String) :
    ∀ entry ∈ (catalog.register document uri).entries, entry.2.Laid layout := by
  intro entry hentry
  rw [Catalog.register_eq] at hentry
  split at hentry
  · exact h entry hentry
  · rcases Catalog.mem_addAll hentry with ⟨resource, hresource, heq⟩ | hentry
    · rw [heq]
      exact hdocument.of_mem (Schema.mem_nodes_of_named hresource)
    · exact h entry hentry

/-- Marking a document of the session keeps it laid. -/
theorem exists_mint {ι : Type} (h : session.Laid layout) (document : Schema ι) :
    ∃ after : Layout, layout.Extends after ∧ (session.mint document).2.Laid after ∧
      (session.mint document).1.Laid after := by
  obtain ⟨after, hext, hnext, hlaid⟩ := document.exists_laid_mint layout
  rw [h.next_eq] at hnext hlaid
  exact ⟨after, hext,
    ⟨hnext, fun entry hentry => (h.catalog entry hentry).mono hext⟩, hlaid⟩

end Session.Laid

theorem Session.erase_mint {ι : Type} (session : Session) (document : Schema ι) :
    (session.mint document).1.erase = document.erase :=
  document.erase_mint session.next

/-! ## Loading -/

namespace Action

variable (loader : Loader) (name target : String) (run : Run)

/-- The run after a request. -/
def asking : Run := { run with asked := run.asked ++ [name] }

theorem on_load :
    (load loader name target).on run =
      match run.catalog.get? name with
      | some document => (.ok document, run)
      | none =>
        let after := asking name run
        match loader run.asked name with
        | .document document =>
          let (node, session) := after.toSession.mint document
          (.ok node,
            { after with
              toSession := { session with
                catalog := session.catalog.register node (some name) } })
        | .absent => (.error (.unresolved target), after)
        | .failed message =>
          (.error (.loader name message),
            { after with warnings := after.warnings ++ [.loaderFailed name message] })
        | .refused error =>
          (.error error,
            { after with
              warnings :=
                after.warnings ++ [.loaderFailed name error.message] }) := by
  rw [load, Execution.load, on_bind, Execution.perform_action, on_get]
  dsimp only
  cases run.catalog.get? name with
  | some document => rfl
  | none =>
    show (request loader name >>= fun reply => settle name target reply).on run = _
    rw [on_bind, on_request]
    dsimp only
    cases loader run.asked name <;> rfl

/-- Loading leaves the memo as it is. -/
theorem memo_load : ((load loader name target).on run).2.memo = run.memo := by
  rw [on_load]
  split
  · rfl
  · dsimp only
    split <;> rfl

/-- A document is fetched as the world says. -/
theorem load_erase :
    (((load loader name target).on run).1.map Schema.erase,
      ((load loader name target).on run).2.world) = run.world.fetch loader name
        target := by
  rw [on_load]
  simp only [World.fetch, Run.world, Catalog.get?_erase]
  cases run.catalog.get? name with
  | some document => rfl
  | none =>
    dsimp only [Option.map_none]
    cases loader run.asked name with
    | document document =>
      simp only [asking, Session.mint, Except.map, Catalog.register_erase,
        Schema.erase_mint, Schema.erase_document]
    | absent | failed | refused => rfl

variable {run}

theorem exists_laid_load {layout : Layout} (h : run.toSession.Laid layout) :
    ∃ after : Layout, layout.Extends after ∧
      ((load loader name target).on run).2.toSession.Laid after ∧
      ∀ document, ((load loader name target).on run).1 = .ok document →
        document.Laid after := by
  have hasking : (asking name run).toSession.Laid layout := ⟨h.next_eq, h.catalog⟩
  rw [on_load]
  cases hget : run.catalog.get? name with
  | some document =>
    refine ⟨layout, .refl layout, h, ?_⟩
    rintro document ⟨⟩
    exact h.get? hget
  | none =>
    dsimp only
    cases loader run.asked name with
    | document document =>
      obtain ⟨after, hext, hsession, hlaid⟩ := hasking.exists_mint document
      refine ⟨after, hext, ⟨hsession.next_eq, ?_⟩, ?_⟩
      · exact Session.Laid.mem_register hsession.catalog hlaid (some name)
      · rintro node ⟨⟩
        exact hlaid
    | absent => exact ⟨layout, .refl layout, hasking, by simp⟩
    | failed message => exact ⟨layout, .refl layout, ⟨h.next_eq, h.catalog⟩, by simp⟩
    | refused error => exact ⟨layout, .refl layout, ⟨h.next_eq, h.catalog⟩, by simp⟩

/-! ## Arriving -/

theorem arrive_erase (landing : Except DerefError (Landing NodeId)) (run : Run) :
    ((arrive landing).on run).1.map Schema.erase = landing.map Landing.erase ∧
      ((arrive landing).on run).2.world = run.world ∧
      ((arrive landing).on run).2.memo = run.memo := by
  cases landing with
  | error error => exact ⟨rfl, rfl, rfl⟩
  | ok landing =>
    cases landing with
    | found node => exact ⟨rfl, rfl, rfl⟩
    | reread document =>
      refine ⟨?_, rfl, rfl⟩
      simp [arrive, Except.map, Schema.erase_mint,
        Schema.erase_document, Landing.erase]

theorem exists_laid_arrive {layout : Layout}
    {landing : Except DerefError (Landing NodeId)} (h : run.toSession.Laid layout)
    (hfound : ∀ node, landing = .ok (.found node) → node.Laid layout) :
    ∃ after : Layout, layout.Extends after ∧
      ((arrive landing).on run).2.toSession.Laid after ∧
      ∀ place, ((arrive landing).on run).1 = .ok place → place.Laid after := by
  cases landing with
  | error error =>
    refine ⟨layout, .refl layout, h, ?_⟩
    rintro place ⟨⟩
  | ok landing =>
    cases landing with
    | found node =>
      refine ⟨layout, .refl layout, h, ?_⟩
      rintro place ⟨⟩
      exact hfound node rfl
    | reread document =>
      obtain ⟨after, hext, hsession, hlaid⟩ := h.exists_mint document
      refine ⟨after, hext, hsession, ?_⟩
      rintro place ⟨⟩
      exact hlaid

end Action

/-! ## Landing places -/

namespace Reference

/-- The place a `$dynamicRef` names, and whether it is one around it. -/
theorem dynamicPlace_erase {layout : Layout} {scope : Scope} (h : scope.Laid layout)
    {target fragment : String}
    (hself : dynamicPlace? scope target fragment ≠ .ok none) :
    scope.view.dynamicPlace target fragment =
      (dynamicPlace? scope target fragment).bind fun
        | some landing => .ok landing.erase
        | none => .error (.unresolvedDynamic target) := by
  simp only [View.dynamicPlace, dynamicPlace?] at hself ⊢
  split
  · rw [Scope.view_root, Schema.at_erase]
    cases scope.root.follow fragment <;> rfl
  · rename_i hslash
    rw [if_neg hslash] at hself
    rw [Scope.view_binding?]
    cases hbinding : scope.binding? (splitAnchor fragment).1 with
    | some bound =>
      simp only [hbinding] at hself
      cases hpointer : (splitAnchor fragment).2.isEmpty with
      | true => simp [hpointer] at hself
      | false =>
        simp only [Option.map_some, Schema.at_erase, Bool.false_eq_true, if_false]
        cases bound.follow (splitAnchor fragment).2 <;> rfl
    | none =>
      simp only [Option.map_none, Scope.view_root, h.root.find?_erase]
      cases scope.root.anchored? (splitAnchor fragment).1 with
      | none => rfl
      | some node =>
        simp only [Option.map_some, Schema.at_erase]
        cases node.follow (splitAnchor fragment).2 <;> rfl

theorem mem_nodes_of_dynamicPlace? {scope : Scope} {layout : Layout}
    (h : scope.Laid layout) {target fragment : String} {node : Node}
    (hplace : dynamicPlace? scope target fragment = .ok (some (.found node))) :
    node.Laid layout := by
  have hfollow : ∀ {document : Node} {pointer : String}, document.Laid layout →
      (document.follow pointer).map some = .ok (some (.found node)) →
        node.Laid layout := by
    intro document pointer hdocument heq
    cases hfollow : document.follow pointer with
    | error error =>
      rw [hfollow] at heq
      cases heq
    | ok landing =>
      rw [hfollow] at heq
      cases heq
      exact hdocument.of_mem (Schema.mem_nodes_of_follow hfollow)
  simp only [dynamicPlace?] at hplace
  split at hplace
  · exact hfollow h.root hplace
  · split at hplace
    · rename_i bound hbinding
      split at hplace
      · cases hplace
      · exact hfollow (h.binding hbinding) hplace
    · split at hplace
      · rename_i start hstart
        exact hfollow (h.root.of_mem (Schema.mem_nodes_of_anchored? hstart)) hplace
      · cases hplace

/-- A reference that does not name the place it stands in ends where the view says. -/
theorem landing_erase {layout : Layout} {scope : Scope} (h : scope.Laid layout)
    {reference : Reference} (hself : ¬ reference.isSelf scope.view = true) :
    (reference.landing scope).map Landing.erase = scope.view.place reference := by
  obtain ⟨kind, target⟩ := reference
  cases kind with
  | static => exact (h.root.locate_erase _).symm
  | recursive =>
    have hstart : scope.view.recursiveAnchor?.getD scope.view.root =
        (scope.recursiveAnchor?.getD scope.root).erase := by
      rw [Scope.view_recursiveAnchor?]
      cases scope.recursiveAnchor? <;> rfl
    simp only [landing, View.place, hstart]
    exact (h.recursiveAnchor.locate_erase _).symm
  | dynamic =>
    have hplace : dynamicPlace? scope target
        ((ReferenceParts.ofString target).fragment.getD "") ≠ .ok none := by
      intro hnone
      rw [isSelf_dynamic, hnone] at hself
      simp at hself
    simp only [landing, View.place, parts, dynamicPlace_erase h hplace]
    cases hcase : dynamicPlace? scope target
        ((ReferenceParts.ofString target).fragment.getD "") with
    | error error => rfl
    | ok place =>
      cases place with
      | none => exact absurd hcase hplace
      | some landing => rfl

theorem laid_landing {layout : Layout} {scope : Scope} (h : scope.Laid layout)
    {reference : Reference} {node : Node}
    (hlanding : reference.landing scope = .ok (.found node)) :
    node.Laid layout := by
  obtain ⟨kind, target⟩ := reference
  cases kind with
  | static => exact h.root.of_mem (Schema.mem_nodes_of_locate hlanding)
  | recursive => exact h.recursiveAnchor.of_mem (Schema.mem_nodes_of_locate hlanding)
  | dynamic =>
    simp only [landing] at hlanding
    split at hlanding
    · rename_i place hplace
      cases hlanding
      exact mem_nodes_of_dynamicPlace? h hplace
    · cases hlanding
      exact h.root
    · cases hlanding

/-! ## Destinations -/

/-- The memo stays as it is on the way to a destination. -/
theorem memo_destination (setup : Setup) (scope : Scope) (reference : Reference)
    (run : Run) :
    ((reference.destination setup scope).on run).2.memo = run.memo := by
  have harrive : ∀ (landing : Except DerefError (Landing NodeId))
      (f : Node → Destination NodeId) run,
      ((Action.arrive landing >>= fun place => pure (f place)).on run).2.memo =
        run.memo := by
    intro landing f run
    rw [← map_eq_pure_bind, Action.on_map]
    exact (Action.arrive_erase landing run).2.2
  rw [destination]
  split
  · exact harrive _ _ run
  · rename_i uri _
    have hload := Action.memo_load setup.loader (Uri.joinName scope.base uri)
        reference.target run
    dsimp only
    rw [Action.on_bind]
    split
    · rename_i document after heq
      rw [heq] at hload
      exact (harrive _ _ after).trans hload
    · rename_i error after heq
      rw [heq] at hload
      exact hload

/-- What is known of a step to a destination. -/
structure Arrives (setup : Setup) (scope : Scope) (reference : Reference) (run : Run)
    (outcome : Except DerefError (Destination NodeId)) (after : Run) : Prop where
  on_eq : (reference.destination setup scope).on run = (outcome, after)
  erase_eq : scope.view.destination setup.loader reference run.world =
    (outcome.map Destination.erase, after.world)
  memo_eq : after.memo = run.memo

theorem exists_arrives (reference : Reference) (setup : Setup) {layout : Layout}
    {scope : Scope} {run : Run} (hscope : scope.Laid layout)
    (hrun : run.toSession.Laid layout)
    (hself : ¬ reference.isSelf scope.view = true) :
    ∃ outcome after, Arrives setup scope reference run outcome after ∧
      ∃ later : Layout, layout.Extends later ∧ after.toSession.Laid later ∧
        ∀ destination, outcome = .ok destination →
          destination.place.Laid later ∧ destination.root.Laid later := by
  cases huri : reference.parts.uri with
  | none =>
    obtain ⟨herase, hworld, hmemo⟩ :=
      Action.arrive_erase (reference.landing scope) run
    obtain ⟨later, hext, hafter, hplace⟩ := Action.exists_laid_arrive hrun
      (fun node hnode => laid_landing hscope hnode)
    have hon : (reference.destination setup scope).on run =
        (((Action.arrive (reference.landing scope)).on run).1.map
          (⟨·, scope.root, scope.base⟩),
          ((Action.arrive (reference.landing scope)).on run).2) := by
      simp only [destination, huri, ← map_eq_pure_bind, Action.on_map]
    refine ⟨_, _, ⟨hon, ?_, hmemo⟩, later, hext, hafter, ?_⟩
    · simp only [View.destination, huri, ← landing_erase hscope hself,
        ← herase, hworld]
      cases ((Action.arrive (reference.landing scope)).on run).1 <;> rfl
    · intro destination hdestination
      cases houtcome : ((Action.arrive (reference.landing scope)).on run).1 with
      | error error =>
        rw [houtcome] at hdestination
        cases hdestination
      | ok place =>
        rw [houtcome] at hdestination
        cases hdestination
        exact ⟨hplace place houtcome, hscope.root.mono hext⟩
  | some uri =>
    have herase := Action.load_erase setup.loader (Uri.joinName scope.base uri)
        reference.target run
    have hmemo := Action.memo_load setup.loader (Uri.joinName scope.base uri)
        reference.target run
    obtain ⟨middle, hext, hmiddle, hdocument⟩ := Action.exists_laid_load setup.loader
      (Uri.joinName scope.base uri) reference.target hrun
    cases hload :
      (Action.load setup.loader (Uri.joinName scope.base uri) reference.target).on
        run with
    | mk loaded loading =>
      rw [hload] at herase hmemo hmiddle hdocument
      dsimp only at herase hmemo hmiddle hdocument
      cases loaded with
      | error error =>
        refine ⟨.error error, loading, ⟨?_, ?_, hmemo⟩, middle, hext, hmiddle, ?_⟩
        · simp only [destination, huri, Action.on_bind, hload]
        · simp only [View.destination, huri, Scope.view_base, ← herase, Except.map]
        · intro destination hdestination
          cases hdestination
      | ok document =>
        have hlaid := hdocument document rfl
        obtain ⟨harrive, hworld, hmemo'⟩ :=
          Action.arrive_erase (document.locate reference.parts.fragment) loading
        obtain ⟨later, hext', hafter, hplace⟩ := Action.exists_laid_arrive hmiddle
          (fun node hnode => hlaid.of_mem (Schema.mem_nodes_of_locate hnode))
        have hon : (reference.destination setup scope).on run =
            (((Action.arrive (document.locate reference.parts.fragment)).on
              loading).1.map
                (⟨·, document, some (Uri.joinName scope.base uri)⟩),
              ((Action.arrive (document.locate reference.parts.fragment)).on
                loading).2) := by
          simp only [destination, huri, Action.on_bind, hload,
            ← map_eq_pure_bind, Action.on_map]
        refine ⟨_, _, ⟨hon, ?_, hmemo'.trans hmemo⟩, later,
          hext.trans hext', hafter, ?_⟩
        · simp only [View.destination, huri, Scope.view_base, ← herase,
            Except.map, hworld]
          rw [hlaid.locate_erase, ← harrive]
          cases ((Action.arrive (document.locate reference.parts.fragment)).on
            loading).1 <;> rfl
        · intro destination hdestination
          cases houtcome :
              ((Action.arrive (document.locate reference.parts.fragment)).on
                loading).1 with
          | error error =>
            rw [houtcome] at hdestination
            cases hdestination
          | ok place =>
            rw [houtcome] at hdestination
            cases hdestination
            exact ⟨hplace place houtcome, hlaid.mono hext'⟩

end Reference

end SchemaDeref
