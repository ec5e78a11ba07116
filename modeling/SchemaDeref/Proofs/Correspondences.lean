import SchemaDeref.Proofs.Identities
import SchemaDeref.Proofs.Ways

/-!
# Calls side by side

Two calls for one schema take the same steps, in different sessions and so under
other identities, if their primitive steps go together: looking at what is
remembered and remembering it, handing out identities, warning, and looking up a
document. What is built from these is told once here, along the code, for any
relation of steps that goes through sequences (`Correspondence.derefs`). A document
is looked up only where the first of the calls comes to a reference that needs it.
-/

namespace SchemaDeref

/-- A step that touches nothing but what is remembered. -/
def Action.onMemo {α : Type} (f : Memo → α × Memo) : Action α :=
  modifyGet fun run => ((f run.memo).1, { run with memo := (f run.memo).2 })

@[simp] theorem Action.on_onMemo {α : Type} (f : Memo → α × Memo) (run : Run) :
    (onMemo f).on run = (.ok (f run.memo).1, { run with memo := (f run.memo).2 }) :=
  rfl

theorem Action.updateMemo_eq_onMemo (f : Memo → Memo) :
    updateMemo f = onMemo fun memo => ((), f memo) :=
  rfl

theorem Action.recallNode_eq_onMemo (node : Node) :
    recallNode node = onMemo (·.recallNode node) := rfl

theorem Reference.recallTarget_eq_onMemo (scope : Scope) (reference : Reference) :
    recallTarget scope reference =
      Action.onMemo (·.recallTarget reference scope.base) := rfl

/-- A relation of steps, each on a run of its own call, that goes through sequences
of steps and holds of the primitive ones. The first call is the one for the schema
in the session. -/
structure Correspondence (setup : Setup) (session : Session) (schema : Node) where
  /-- The identity in the second call of an object of the first. -/
  rename : NodeId → NodeId
  injective : rename.Injective
  /-- The runs that go together. -/
  runs : Run → Run → Prop
  /-- The steps that go together, and what a value of the first becomes in the
  second. -/
  rel : {α β : Type} → (α → β) → Action α → Run → Action β → Run → Prop
  pure : ∀ {α β : Type} {g : α → β} {run run' : Run} (a : α), runs run run' →
    rel g (Pure.pure a) run (Pure.pure (g a)) run'
  throw : ∀ {α β : Type} {g : α → β} {run run' : Run} (error : DerefError),
    runs run run' →
    rel g (MonadExcept.throw error) run (MonadExcept.throw error) run'
  bind : ∀ {α β γ δ : Type} {g : α → β} {g' : γ → δ} {first : Action α}
    {first' : Action β}
    {next : α → Action γ} {next' : β → Action δ} {run run' : Run}, rel g first run
    first' run' →
    (∀ a after after', first.on run = (.ok a, after) → runs after after' →
      rel g' (next a) after (next' (g a)) after') →
    rel g' (first >>= next) run (first' >>= next') run'
  memo : ∀ {α β : Type} {g : α → β} {f : Memo → α × Memo} {f' : Memo → β × Memo}
    {run run' : Run},
    (∀ memo, f' (memo.rename rename) = (g (f memo).1, (f memo).2.rename rename)) →
      runs run run' →
    rel g (Action.onMemo f) run (Action.onMemo f') run'
  warn : ∀ {run run' : Run} (warning : Warning), runs run run' →
    rel id (Action.warn warning) run (Action.warn warning) run'
  newObject : ∀ {run run' : Run} (keywords : Keywords NodeId), runs run run' →
    rel (Schema.rename rename) (Action.newObject keywords) run
      (Action.newObject (renameEntries rename keywords)) run'
  mint : ∀ {run run' : Run} (document : Document), runs run run' →
    rel (Schema.rename rename) (Action.mint document) run (Action.mint document) run'
  load : ∀ {way : Way} {name target : String} {run run' : Run},
    LooksUp setup session schema way name → runs run run' →
    rel (Schema.rename rename) (Action.load setup.loader name target) run
      (Action.load setup.loader name target) run'

namespace Correspondence

variable {setup : Setup} {session : Session} {schema : Node}
  (C : Correspondence setup session schema) {run run' : Run}

theorem map {α β γ δ : Type} {g : α → β} {g' : γ → δ} {f : α → γ} {f' : β → δ}
    {action : Action α} {again : Action β} (h : C.rel g action run again run')
    (hf : ∀ a, f' (g a) = g' (f a)) :
    C.rel g' (f <$> action) run (f' <$> again) run' := by
  rw [map_eq_pure_bind, map_eq_pure_bind]
  refine C.bind h fun a after after' _ hruns => ?_
  rw [hf a]
  exact C.pure (f a) hruns

theorem updateMemo {u u' : Memo → Memo}
    (h : ∀ memo, u' (memo.rename C.rename) = (u memo).rename C.rename)
    (hruns : C.runs run run') :
    C.rel id (Action.updateMemo u) run (Action.updateMemo u') run' := by
  rw [Action.updateMemo_eq_onMemo, Action.updateMemo_eq_onMemo]
  exact C.memo (fun memo => congrArg (Prod.mk ()) (h memo)) hruns

theorem recallNode (node : Node) (hruns : C.runs run run') :
    C.rel (Option.map (Schema.rename C.rename)) (Action.recallNode node) run
      (Action.recallNode (node.rename C.rename)) run' := by
  rw [Action.recallNode_eq_onMemo, Action.recallNode_eq_onMemo]
  exact C.memo (fun memo => memo.recallNode_rename C.injective node) hruns

theorem recallTarget (scope : Scope) (reference : Reference)
    (hruns : C.runs run run') :
    C.rel (Option.map (Schema.rename C.rename)) (reference.recallTarget scope) run
      (reference.recallTarget (scope.rename C.rename)) run' := by
  rw [Reference.recallTarget_eq_onMemo, Reference.recallTarget_eq_onMemo]
  exact C.memo (fun memo => memo.recallTarget_rename C.rename reference scope.base)
    hruns

theorem arrive (landing : Except DerefError (Landing NodeId))
    (hruns : C.runs run run') :
    C.rel (Schema.rename C.rename) (Action.arrive landing) run
      (Action.arrive (landing.map (Landing.rename C.rename))) run' := by
  rcases landing with error | node | document
  · exact C.throw error hruns
  · exact C.pure node hruns
  · exact C.mint document hruns

/-! ## References -/

theorem circle (scope : Scope) (reference : Reference) (hruns : C.runs run run') :
    C.rel (Outcome.rename C.rename) (reference.circle setup scope) run
      (reference.circle setup (scope.rename C.rename)) run' := by
  simp only [Reference.circle]
  split
  · exact C.bind (C.updateMemo (fun _ => rfl) hruns) fun _ _ _ _ hruns => C.pure
      Outcome.kept hruns
  · exact C.throw _ hruns

theorem destination {way : Way} {hops : Nat} {scope : Scope} {reference : Reference}
    (follows : Follows setup session schema way hops scope reference run)
    (hruns : C.runs run run') :
    C.rel (Destination.rename C.rename) (reference.destination setup scope) run
      (reference.destination setup (scope.rename C.rename)) run' := by
  simp only [Reference.destination]
  split
  · rw [Reference.landing_rename C.injective]
    refine C.bind (C.arrive _ hruns) fun place _ _ _ hruns => ?_
    exact C.pure (Destination.mk place scope.root scope.base) hruns
  · rename_i uri huri
    have looks : LooksUp setup session schema way (Uri.joinName scope.base uri) :=
      ⟨_, _, _, _, uri, follows, huri, rfl⟩
    refine C.bind (C.load looks hruns) fun document _ _ _ hruns => ?_
    rw [Node.locate_rename C.injective]
    refine C.bind (C.arrive _ hruns) fun place _ _ _ hruns => ?_
    exact C.pure (Destination.mk place document _) hruns

/-- That a node goes together with its other self, wherever the first call comes to
it. -/
def Derefs (hops : Nat) (node : Node) : Prop :=
  ∀ {way scope run run'}, Reaches setup session schema way hops scope
    (.node node) run →
    C.runs run run' →
    C.rel (Schema.rename C.rename) (Node.deref setup hops node scope) run
      (Node.deref setup hops (node.rename C.rename) (scope.rename C.rename)) run'

variable {C} {hops : Nat}

theorem pursue (hhop : ∀ less, hops = less + 1 → ∀ node, C.Derefs less node)
    {way : Way} {scope : Scope} {reference : Reference}
    (reaches : Reaches setup session schema way hops scope (.reference reference) run)
    (hruns : C.runs run run') :
    C.rel (Outcome.rename C.rename) (reference.pursue setup (setup.hop hops) scope)
      run (reference.pursue setup (setup.hop hops) (scope.rename C.rename)) run' := by
  simp only [Reference.pursue, Scope.rename_onPath, Scope.rename_base,
    Scope.view_rename]
  refine C.bind (C.recallTarget scope reference hruns) fun hit after after'
    hrecall hruns => ?_
  rw [Reference.on_recallTarget] at hrecall
  cases hit with
  | some result => exact C.pure (Outcome.target result) hruns
  | none =>
    -- where nothing is recalled the run goes on as it is
    have fresh := Except.ok.inj (Prod.mk.inj hrecall).1
    rw [Memo.recallTarget_fresh fresh] at hrecall
    obtain rfl : run = after := (Prod.mk.inj hrecall).2
    dsimp only [Option.map_none]
    split
    · exact C.circle scope reference hruns
    · rename_i honpath
      cases hops with
      | zero => exact C.throw _ hruns
      | succ less =>
        simp only [Setup.hop, Reference.nextHop, pure_bind]
        split
        · exact C.circle scope reference hruns
        · rename_i hself
          have straight : scope.view.circles reference = false := by
            simp only [View.circles, Scope.view_onPath, Scope.view_base]
            simp_all
          refine C.bind (C.destination ⟨reaches, fresh, straight⟩ hruns)
            fun destination after after' arrived hruns => ?_
          refine C.bind (g := Schema.rename C.rename) ?_ fun result _ _ _ hruns => ?_
          · rw [Reference.expand, Reference.expand]
            refine C.bind (C.updateMemo (fun _ => rfl) hruns)
              fun _ _ _ hcounted hruns => ?_
            cases hcounted
            exact hhop less rfl destination.place
              (reaches.followed fresh straight arrived) hruns
          · refine C.bind (C.updateMemo (fun memo => ?_) hruns) fun _ _ _ _ hruns =>
              C.pure (Outcome.target result) hruns
            exact memo.rememberTarget_rename C.rename reference scope.base result

theorem followIn (hhop : ∀ less, hops = less + 1 → ∀ node, C.Derefs less node)
    {way : Way} {scope : Scope} {keywords : Keywords NodeId}
    (reaches : Reaches setup session schema way hops scope (.link keywords) run)
    (hruns : C.runs run run') :
    C.rel (Outcome.rename C.rename)
      (Action.followIn setup (setup.hop hops) scope keywords) run
      (Action.followIn setup (setup.hop hops) (scope.rename C.rename)
        (renameEntries C.rename keywords)) run' := by
  simp only [Action.followIn_eq, Keywords.reference?_rename]
  split
  · exact C.pure Outcome.kept hruns
  · rename_i reference some
    refine C.bind (g := id) ?_ fun _ after after' hwarn hruns => ?_
    · simp only [Action.warnOfSeveral, Keywords.referenceKinds_rename]
      split
      · exact C.warn _ hruns
      · exact C.pure () hruns
    · rw [Reference.follow_eq_pursue, Reference.follow_eq_pursue]
      have referring := reaches.referring some
      rw [hwarn] at referring
      exact pursue hhop referring hruns

/-! ## Nodes -/

theorem conclude (id : NodeId) (keywords result : Keywords NodeId) (outcome : Outcome)
    (hruns : C.runs run run') :
    C.rel (Schema.rename C.rename) (Action.conclude id keywords result outcome) run
      (Action.conclude (C.rename id) (renameEntries C.rename keywords)
        (renameEntries C.rename result) (outcome.rename C.rename)) run' := by
  cases outcome with
  | kept =>
    simp only [Outcome.rename, Action.conclude, Action.rebuild,
      areSameEntries_rename C.injective]
    split
    · have hpure :=
        C.pure (g := Schema.rename C.rename) (Schema.object id keywords) hruns
      rwa [Schema.rename] at hpure
    · exact C.newObject result hruns
  | target target =>
    simp only [Outcome.rename, Action.conclude, Action.layOver,
      Keywords.siblings_rename, Keywords.isEmpty_rename]
    split
    · exact C.pure target hruns
    · cases target with
      | bool value =>
        rw [Schema.rename]
        cases value with
        | false =>
          have hpure := C.pure (g := Schema.rename C.rename) (Schema.bool false) hruns
          rwa [Schema.rename] at hpure
        | true => exact C.newObject _ hruns
      | object mark others =>
        rw [Schema.rename]
        dsimp only
        rw [← Members.overwrite_rename]
        exact C.newObject _ hruns

theorem derefAll {way : Way} {scope : Scope} {nodes : List Node}
    (h : ∀ node ∈ nodes, C.Derefs hops node)
    (reaches : Reaches setup session schema way hops scope (.nodes nodes) run)
    (hruns : C.runs run run') :
    C.rel (List.map (Schema.rename C.rename))
      (nodes.mapM (Schema.derefWith setup (setup.hop hops) scope)) run
      ((nodes.map (Schema.rename C.rename)).mapM
        (Schema.derefWith setup (setup.hop hops) (scope.rename C.rename))) run' := by
  induction nodes generalizing run run' with
  | nil => exact C.pure [] hruns
  | cons node rest ih =>
    obtain ⟨hnode, hrest⟩ := List.forall_mem_cons.mp h
    have hfirst := hnode reaches.first hruns
    rw [Node.deref_eq, Node.deref_eq] at hfirst
    rw [List.map_cons, List.mapM_cons, List.mapM_cons]
    refine C.bind hfirst fun result after after' hon hruns => ?_
    rw [← Node.deref_eq] at hon
    refine C.bind (ih hrest (reaches.next hon) hruns) fun results _ _ _ hruns => ?_
    exact C.pure (result :: results) hruns

theorem derefs_of_hop (hhop : ∀ less, hops = less + 1 → ∀ node, C.Derefs less node)
    (node : Node) :
    C.Derefs hops node := by
  induction node using Schema.appliedInduction with
  | bool value =>
    intro way scope run run' _ hruns
    have hpure := C.pure (g := Schema.rename C.rename) (Schema.bool value) hruns
    rw [Schema.rename] at hpure
    rw [Node.deref_eq, Node.deref_eq, Schema.rename, Schema.derefWith,
      Schema.derefWith]
    exact hpure
  | object id keywords ih =>
    intro way scope run run' reaches hruns
    have hrecall := C.recallNode (.object id keywords) hruns
    rw [Schema.rename] at hrecall
    rw [Node.deref_eq, Node.deref_eq, Schema.rename, Schema.derefWith_object,
      Schema.derefWith_object]
    refine C.bind hrecall fun hit after after' hon hruns => ?_
    cases hit with
    | some result => exact C.pure result hruns
    | none =>
      rw [Action.on_recallNode] at hon
      have fresh := Except.ok.inj (Prod.mk.inj hon).1
      rw [Memo.recallNode_fresh fresh] at hon
      obtain rfl : run = after := (Prod.mk.inj hon).2
      dsimp only [Option.map_none]
      rw [← Scope.rename_enter]
      have link := reaches.entered fresh
      refine C.bind (followIn hhop link hruns) fun outcome _ _ followed hruns => ?_
      rw [derefKeywords_eq, derefKeywords_eq, Keywords.applied_rename]
      refine C.bind (g := renameEntries C.rename) ?_ fun members _ _ _ hruns => ?_
      · exact C.map (derefAll ih (link.applied followed) hruns) fun results =>
          (Keywords.rename_refill C.rename keywords results).symm
      · refine C.bind (conclude id keywords members outcome hruns)
          fun result _ _ _ hruns => ?_
        refine C.bind (C.updateMemo (fun memo => ?_) hruns)
          fun _ _ _ _ hruns => C.pure result hruns
        exact memo.rememberNode_rename C.rename (.object id keywords) result

/-- All that the first call comes to is dereferenced in step with the second. -/
theorem derefs (hops : Nat) (node : Node) : C.Derefs hops node := by
  induction hops generalizing node with
  | zero =>
    exact derefs_of_hop (fun less hless => absurd hless (Nat.zero_ne_add_one less))
      node
  | succ hops ih =>
    -- a target is dereferenced again with as many hops as before
    refine derefs_of_hop (fun less hless => ?_) node
    obtain rfl := Nat.succ.inj hless
    exact ih

/-- From runs that go together, two calls take the same steps. -/
theorem call (C : Correspondence setup session schema)
    (hruns : C.runs (setup.begin session schema).toRun run') :
    C.rel (Schema.rename C.rename)
      (Node.deref setup setup.settings.maxDepth schema (.start schema none))
      (setup.begin session schema).toRun
      (Node.deref setup setup.settings.maxDepth (schema.rename C.rename)
        (.start (schema.rename C.rename) none)) run' :=
  derefs _ schema .start hruns

end Correspondence

end SchemaDeref
