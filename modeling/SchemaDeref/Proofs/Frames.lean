import SchemaDeref.Proofs.Refilling
import SchemaDeref.Proofs.Survivors
import SchemaDeref.Proofs.Ways

/-!
# The frame of an object

What an object keeps when it is dereferenced. Definitions and data stay as they are,
an applicator holds schemas where it held schemas, and an object whose reference is
not replaced has no other keywords than before. One step shows it for an object that
is dereferenced anew, wherever that is (`Node.frames_of_fresh`). A remembered result
was computed at an earlier place of the same call (`Reaches.exists_stage`), so it is
one of these.
-/

namespace SchemaDeref

variable {ι : Type}

/-! ## Skeletons -/

mutual

/-- A keyword without its schemas: all that is left is where they are. -/
def Keyword.skeleton : Keyword ι → Keyword Unit
  | .schema _ => .schema (.bool true)
  | .list items => .list (itemSkeletons items)
  | .map entries => .map (entrySkeletons entries)
  | .value data => .value data

def itemSkeletons : List (Keyword ι) → List (Keyword Unit)
  | [] => []
  | item :: rest => item.skeleton :: itemSkeletons rest

def entrySkeletons : List (String × Keyword ι) → List (String × Keyword Unit)
  | [] => []
  | (name, entry) :: rest => (name, entry.skeleton) :: entrySkeletons rest

end

/-- Two keywords have the same skeleton. -/
abbrev Keyword.SameSkeleton (old new : Keyword ι) : Prop :=
  new.skeleton = old.skeleton

theorem itemSkeletons_eq {olds news : List (Keyword ι)}
    (h : List.Forall₂ Keyword.SameSkeleton olds news) :
    itemSkeletons news = itemSkeletons olds := by
  induction h with
  | nil => rfl
  | cons hfirst _ ih => rw [itemSkeletons, itemSkeletons, hfirst, ih]

theorem entrySkeletons_eq {olds news : List (String × Keyword ι)}
    (h : AreRelatedEntries Keyword.SameSkeleton olds news) :
    entrySkeletons news = entrySkeletons olds := by
  induction h with
  | nil => rfl
  | cons hfirst _ ih => rw [entrySkeletons, entrySkeletons, hfirst.1, hfirst.2, ih]

/-- Whatever schemas are put in the places of others, the skeleton is the same. -/
theorem handsUp_sameSkeleton :
    HandsUp (fun _ _ : Schema ι => True) Keyword.SameSkeleton where
  schema _ := rfl
  list h := congrArg Keyword.list (itemSkeletons_eq h)
  map h := congrArg Keyword.map (entrySkeletons_eq h)
  value _ := rfl

theorem Keywords.sameSkeleton_refill (keywords : Keywords ι) {news : List (Schema ι)}
    (h : news.length = (applied keywords).length) :
    AreRelatedEntries Keyword.SameSkeleton keywords (refill keywords news) :=
  related_refill handsUp_sameSkeleton (fun _ => trivial) keywords news
    (List.forall₂_of_length_eq_of_get h.symm fun _ _ _ => trivial)

/-! ## Keywords that stay -/

/-- The keywords of an object are in another: definitions and data as they are,
applicators with their skeletons. Reference keywords need not be there. -/
structure Keywords.Stay (keywords others : Keywords ι) : Prop where
  data : ∀ name keyword, (Shape.ofKeyword name).isApplicator = false →
    ReferenceKind.isKeyword name = false → Members.get? name keywords = some keyword →
    Members.get? name others = some keyword
  applicators : ∀ name keyword, (Shape.ofKeyword name).isApplicator = true →
    Members.get? name keywords = some keyword →
    ∃ new, Members.get? name others = some new ∧ keyword.SameSkeleton new

namespace Keywords.Stay

variable {keywords others : Keywords ι}

theorem refl (keywords : Keywords ι) : Stay keywords keywords :=
  ⟨fun _ _ _ _ h => h, fun _ keyword _ h => ⟨keyword, h, rfl⟩⟩

theorem refill {news : List (Schema ι)}
    (h : news.length = (applied keywords).length) :
    Stay keywords (Keywords.refill keywords news) where
  data name keyword hdata _ hget := by rwa [get?_refill hdata]
  applicators name keyword _ hget := (sameSkeleton_refill keywords h).exists_get? hget

/-- No applicator is a reference keyword. -/
theorem siblings (h : Stay keywords others) :
    Stay keywords (Keywords.siblings others) where
  data name keyword hdata hname hget := by
    rw [get?_siblings hname]
    exact h.data name keyword hdata hname hget
  applicators name keyword happlicator hget := by
    have hname : ReferenceKind.isKeyword name = false := by
      by_contra hkeyword
      rw [ReferenceKind.isApplicator_of_isKeyword (by simpa using hkeyword)]
        at happlicator
      cases happlicator
    rw [get?_siblings hname]
    exact h.applicators name keyword happlicator hget

theorem overwrite (h : Stay keywords others) (hnames : (Members.names others).Nodup)
    (lower : Keywords ι) : Stay keywords (Members.overwrite lower others) where
  data name keyword hdata hname hget :=
    Members.get?_overwrite_of_mem hnames (h.data name keyword hdata hname hget)
  applicators name keyword happlicator hget := by
    obtain ⟨new, hnew, hskeleton⟩ := h.applicators name keyword happlicator hget
    exact ⟨new, Members.get?_overwrite_of_mem hnames hnew, hskeleton⟩

end Keywords.Stay

/-! ## Conclusions -/

/-- What an object may come to, by what its reference came to: an object with its
keywords, and with these alone if its reference is not replaced; a boolean only in
place of a reference, and `true` only if nothing stands beside it. -/
def Keywords.Frames (keywords : Keywords NodeId) (outcome : Outcome) : Node → Prop
  | .bool value =>
    (∃ reference, reference? keywords = some reference) ∧
      (value = false ∨ siblings keywords = [])
  | .object _ others =>
    Stay keywords others ∧
      (reference? keywords = none ∨ outcome = .kept →
        Members.names others = Members.names keywords ∧
          ∀ name, ReferenceKind.isKeyword name = true →
            Members.get? name others = Members.get? name keywords)

theorem Keywords.siblings_eq_nil_of_names {keywords others : Keywords ι}
    (hnames : Members.names keywords = Members.names others)
    (h : siblings others = []) :
    siblings keywords = [] := by
  have hempty : Members.names (siblings keywords) = [] := by
    rw [names_siblings, hnames, ← names_siblings, h]
    rfl
  exact List.map_eq_nil_iff.mp hempty

theorem Action.on_followIn_unreferring {setup : Setup} {hop : Option Hop}
    {scope : Scope} {keywords : Keywords NodeId} {run after : Run} {outcome : Outcome}
    (hnone : Keywords.reference? keywords = none)
    (h : (followIn setup hop scope keywords).on run = (.ok outcome, after)) :
    outcome = .kept := by
  rw [followIn_eq, hnone] at h
  cases h
  rfl

section

variable {keywords : Keywords NodeId} {results : List Node}

theorem Keywords.frames_refill (id : NodeId) (outcome : Outcome)
    (hlength : results.length = (applied keywords).length) :
    Frames keywords outcome (.object id (refill keywords results)) := by
  refine ⟨.refill hlength, fun _ =>
    ⟨(sameSkeleton_refill keywords hlength).names_eq.symm, ?_⟩⟩
  intro name hname
  exact get?_refill (ReferenceKind.isApplicator_of_isKeyword hname) keywords results

/-- Whatever an object is concluded with, its frame is kept. -/
theorem Action.frames_of_conclude {id : NodeId} {outcome : Outcome}
    {run after : Run} {result : Node} (hnames : (Members.names keywords).Nodup)
    (hlength : results.length = (Keywords.applied keywords).length)
    (hkept : Keywords.reference? keywords = none → outcome = .kept)
    (h : (conclude id keywords (Keywords.refill keywords results) outcome).on run =
      (.ok result, after)) : Keywords.Frames keywords outcome result := by
  have hrefilled := (Keywords.sameSkeleton_refill keywords hlength).names_eq
  cases outcome with
  | kept =>
    rw [conclude, rebuild] at h
    split at h
    · cases h
      exact ⟨.refl keywords, fun _ => ⟨rfl, fun _ _ => rfl⟩⟩
    · cases h
      exact Keywords.frames_refill _ _ hlength
  | target target =>
    have hreference : ∃ reference, Keywords.reference? keywords = some reference := by
      cases heq : Keywords.reference? keywords with
      | none => cases hkept heq
      | some reference => exact ⟨reference, rfl⟩
    have hreplaced :
        ¬(Keywords.reference? keywords = none ∨ Outcome.target target = .kept) := by
      obtain ⟨reference, heq⟩ := hreference
      simp [heq]
    have hstay : Keywords.Stay keywords (Keywords.refill keywords results) :=
      .refill hlength
    have hsiblings := hstay.siblings
    have hlaid := hsiblings.overwrite (Keywords.nodup_siblings (hrefilled ▸ hnames))
    simp only [conclude, layOver] at h
    split at h
    · rename_i hempty
      rw [List.isEmpty_iff] at hempty
      cases h
      cases result with
      | bool value =>
        exact ⟨hreference, .inr (Keywords.siblings_eq_nil_of_names hrefilled hempty)⟩
      | object mark others =>
        -- nothing is laid over the target, so there is nothing that could be lost
        have hothers := hlaid others
        rw [hempty] at hothers
        exact ⟨hothers, fun h => absurd h hreplaced⟩
    · split at h
      · cases h
        exact ⟨hreference, .inl rfl⟩
      · cases h
        exact ⟨hsiblings, fun h => absurd h hreplaced⟩
      · cases h
        exact ⟨hlaid _, fun h => absurd h hreplaced⟩

end

/-! ## Objects that are dereferenced anew -/

theorem Action.length_of_mapM {f : Node → Action Node} {nodes results : List Node}
    {run after : Run} (h : (nodes.mapM f).on run = (.ok results, after)) :
    results.length = nodes.length := by
  induction nodes generalizing results run with
  | nil =>
    cases h
    rfl
  | cons first rest ih =>
    rw [List.mapM_cons, on_bind_eq_ok] at h
    obtain ⟨new, middle, _, h⟩ := h
    obtain ⟨news, last, hrest, h⟩ := on_bind_eq_ok.mp h
    cases h
    exact congrArg (· + 1) (ih hrest)

section

variable {setup : Setup} {hops : Nat} {scope : Scope} {id : NodeId}
  {keywords : Keywords NodeId} {run after : Run} {result : Node}

/-- The steps of an object of which no result is remembered. -/
theorem Node.exists_steps
    (fresh : (run.memo.recallNode (.object id keywords)).1 = none)
    (h : (Node.deref setup hops (.object id keywords) scope).on run =
      (.ok result, after)) :
    ∃ outcome linked results applied concluded,
      (Action.followIn setup (setup.hop hops) (scope.enter id keywords) keywords).on
        run =
        (.ok outcome, linked) ∧
      ((Keywords.applied keywords).mapM
        (Schema.derefWith setup (setup.hop hops) (scope.enter id keywords))).on
        linked =
          (.ok results, applied) ∧
      (Action.conclude id keywords (Keywords.refill keywords results) outcome).on
        applied =
        (.ok result, concluded) := by
  rw [Node.deref_eq, Schema.derefWith_object, Action.on_bind, Action.on_recallNode,
    fresh, Memo.recallNode_fresh fresh] at h
  obtain ⟨outcome, linked, hfollow, happly⟩ := Action.on_bind_eq_ok.mp h
  obtain ⟨members, applied, hmembers, hfinish⟩ := Action.on_bind_eq_ok.mp happly
  obtain ⟨new, concluded, hconclude, hremember⟩ := Action.on_bind_eq_ok.mp hfinish
  rw [derefKeywords_eq, map_eq_pure_bind] at hmembers
  obtain ⟨results, middle, hresults, hrefill⟩ := Action.on_bind_eq_ok.mp hmembers
  cases hrefill
  cases hremember
  exact ⟨outcome, linked, results, applied, concluded, hfollow, hresults, hconclude⟩

/-- Wherever an object is dereferenced anew, its frame is kept. -/
theorem Node.frames_of_fresh (hnames : (Members.names keywords).Nodup)
    (fresh : (run.memo.recallNode (.object id keywords)).1 = none)
    (h : (Node.deref setup hops (.object id keywords) scope).on run =
      (.ok result, after)) :
    ∃ outcome linked,
      (Action.followIn setup (setup.hop hops) (scope.enter id keywords) keywords).on
        run =
        (.ok outcome, linked) ∧ Keywords.Frames keywords outcome result := by
  obtain ⟨outcome, linked, results, applied, concluded, hfollow,
    hresults, hconclude⟩ :=
    Node.exists_steps fresh h
  exact ⟨outcome, linked, hfollow, Action.frames_of_conclude hnames
    (Action.length_of_mapM hresults)
    (fun hnone => Action.on_followIn_unreferring hnone hfollow) hconclude⟩

end

/-! ## Remembered results -/

section

variable (setup : Setup) (session : Session) (schema : Node)

/-- `Computes setup session schema hops scope run id keywords outcome result`: in
the call for the schema, the code comes to the object with so many hops left, in
this scope and with this run, which remembers no result of it; its reference comes
to this outcome there, and the object to this result. -/
structure Computes (hops : Nat) (scope : Scope) (run : Run) (id : NodeId)
    (keywords : Keywords NodeId) (outcome : Outcome) (result : Node) : Prop where
  reached : ∃ way, Reaches setup session schema way hops scope
    (.node (.object id keywords)) run
  fresh : (run.memo.recallNode (.object id keywords)).1 = none
  followed : ∃ after,
    (Action.followIn setup (setup.hop hops) (scope.enter id keywords) keywords).on
      run =
      (.ok outcome, after)
  result : ∃ after, (Node.deref setup hops (.object id keywords) scope).on run =
    (.ok result, after)

/-- Every remembered result of an object was computed in the call. -/
def State.Computed (state : State) : Prop :=
  ∀ note ∈ state.notes, ∀ id keywords, note.mark = .node (.object id keywords) →
    ∃ hops scope run outcome,
      Computes setup session schema hops scope run id keywords outcome note.result

end

variable {setup : Setup} {session : Session} {schema : Node}

theorem Computes.frames {hops : Nat} {scope : Scope} {run : Run} {id : NodeId}
    {keywords : Keywords NodeId} {outcome : Outcome} {result : Node}
    (h : Computes setup session schema hops scope run id keywords outcome result)
    (hnames : (Members.names keywords).Nodup) :
    Keywords.Frames keywords outcome result := by
  obtain ⟨linked, hfollowed⟩ := h.followed
  obtain ⟨after, hresult⟩ := h.result
  obtain ⟨outcome', linked', hfollowed', hframes⟩ :=
    Node.frames_of_fresh hnames h.fresh hresult
  rw [hfollowed] at hfollowed'
  cases hfollowed'
  exact hframes

/-- What is noted on a walk of a call was computed in the call. -/
theorem Walk.computed {Fair : Fairness} {hops : Nat} {scope : Scope} {task : Task}
    {state after : State} {result : Except DerefError Answer} {reach : Reach}
    {way : Way} (walk : Walk setup Fair hops scope task state result after reach)
    (reaches : Reaches setup session schema way hops scope task state.toRun)
    (hstate : state.Computed setup session schema) :
    after.Computed setup session schema := by
  refine walk.throughout (P := fun before after =>
    before.Computed setup session schema → after.Computed setup session schema)
    ?_ ?_ ?_ ?_ ?_ ?_ way reaches hstate
  · intro before after _ _ hnotes h
    rwa [State.Computed, hnotes]
  · exact fun hab hbc ha => hbc (hab ha)
  · exact fun _ _ h => h
  · exact fun _ _ h => h
  · intro way hops scope id keywords run outcome linked result last state reach
      reached fresh followed deref h
    refine List.forall_mem_cons.mpr ⟨?_, h⟩
    rintro _ _ ⟨⟩
    exact ⟨hops, scope, run, outcome, ⟨way, reached⟩, fresh, ⟨linked, followed⟩,
      ⟨last, deref⟩⟩
  · intro reference base result state reach h
    simp only [State.Computed, State.noteReference]
    split
    · refine List.forall_mem_cons.mpr ⟨?_, h⟩
      rintro _ _ ⟨⟩
    · exact h

/-! ## Places of a call -/

/-- What a task is about is laid; of a link, that is what its object applies. -/
def Task.Placed (layout : Layout) : Task → Prop
  | .node n => n.Laid layout
  | .nodes ns => ∀ n ∈ ns, n.Laid layout
  | .link keywords => ∀ n ∈ Keywords.applied keywords, n.Laid layout
  | .reference _ => True

theorem Task.Placed.laid {layout : Layout} {task : Task} (h : task.Placed layout) :
    task.Laid layout := by
  cases task with
  | node | nodes => exact h
  | link | reference => trivial

/-- A place of a call, with notes on what its run remembers: all around it is laid,
and every remembered result was computed in the call. -/
structure Stage (setup : Setup) (session : Session) (schema : Node) (scope : Scope)
    (task : Task) (run : Run) (layout : Layout) (state : State) : Prop where
  run_eq : state.toRun = run
  around : scope.Laid layout
  placed : task.Placed layout
  laid : state.Laid layout
  computed : state.Computed setup session schema

/-- Where the code goes on after a task, all is laid and computed again. -/
theorem Stage.exists_after {way : Way} {hops : Nat} {scope : Scope} {task : Task}
    {run after : Run} {layout : Layout} {state : State}
    {result : Except DerefError Answer}
    (stage : Stage setup session schema scope task run layout state)
    (walks : Walks setup hops task)
    (reaches : Reaches setup session schema way hops scope task run)
    (hcode : (task.action setup hops scope).on run = (result, after)) :
    ∃ (later : Layout) (state' : State), layout.Extends later ∧ state'.toRun = after ∧
      state'.Laid later ∧ state'.Computed setup session schema := by
  obtain ⟨rfl, hscope, htask, hstate, hcomputed⟩ := stage
  obtain ⟨result', state', reach, later, walk, hext, hlaid, _⟩ :=
    walks layout scope state hscope htask.laid hstate
  have heq := walk.on_eq
  rw [hcode] at heq
  exact ⟨later, state', hext, (congrArg Prod.snd heq).symm, hlaid,
    walk.computed reaches hcomputed⟩

/-- Every place that is reached in a call has laid surroundings and a memo that was
computed in it. -/
theorem Reaches.exists_stage {schemas : List Node} (h : session.Holds schemas)
    (hschema : schema ∈ schemas) {way : Way} {hops : Nat} {scope : Scope}
    {task : Task} {run : Run}
    (reaches : Reaches setup session schema way hops scope task run) :
    ∃ layout state, Stage setup session schema scope task run layout state := by
  induction reaches with
  | start =>
    obtain ⟨layout, hsession, hschemas⟩ := h
    have hlaid := hschemas schema hschema
    exact ⟨layout, setup.begin session schema, rfl, .start hlaid none, hlaid,
      setup.laid_begin hsession hlaid, fun _ hnote => absurd hnote List.not_mem_nil⟩
  | entered node fresh ih =>
    obtain ⟨layout, state, stage⟩ := ih
    exact ⟨layout, state, stage.run_eq, stage.around.enter stage.placed,
      fun n hn => Schema.Laid.of_mem_applied stage.placed hn, stage.laid,
      stage.computed⟩
  | @applied _ hops _ keywords _ _ _ link followed ih =>
    obtain ⟨layout, state, stage⟩ := ih
    have hwalks : Walks setup hops (.link keywords) :=
      walks_link (walks_reference fun less node _ => walks_node setup less node)
        keywords
    obtain ⟨later, state', hext, hrun, hstate, hcomputed⟩ :=
      stage.exists_after hwalks link
        ((Action.on_map_eq_ok Answer.outcome_inj).mpr followed)
    exact ⟨later, state', hrun, stage.around.mono hext, fun n hn =>
      (stage.placed n hn).mono hext,
      hstate, hcomputed⟩
  | first nodes ih =>
    obtain ⟨layout, state, stage⟩ := ih
    exact ⟨layout, state, stage.run_eq, stage.around,
      stage.placed _ List.mem_cons_self, stage.laid, stage.computed⟩
  | @next _ hops _ node _ _ _ _ nodes dereferenced ih =>
    obtain ⟨layout, state, stage⟩ := ih
    have hfirst : Stage setup session schema _ (.node node) _ layout state :=
      ⟨stage.run_eq, stage.around, stage.placed _ List.mem_cons_self, stage.laid,
        stage.computed⟩
    obtain ⟨later, state', hext, hrun, hstate, hcomputed⟩ :=
      hfirst.exists_after (walks_node setup hops node) nodes.first
        ((Action.on_map_eq_ok Answer.node_inj).mpr dereferenced)
    exact ⟨later, state', hrun, stage.around.mono hext,
      fun n hn => (stage.placed n (List.mem_cons_of_mem _ hn)).mono hext, hstate,
      hcomputed⟩
  | @referring _ _ _ keywords _ reference link some ih =>
    obtain ⟨layout, state, stage⟩ := ih
    refine ⟨layout, state.warned keywords reference.kind, ?_, stage.around, trivial,
      ⟨stage.laid.session, stage.laid.memo⟩, stage.computed⟩
    rw [← stage.run_eq, Action.on_warnOfSeveral]
  | @followed _ _ scope reference run destination after referring fresh straight
    arrived ih =>
    obtain ⟨layout, state, rfl, hscope, _, hstate, hcomputed⟩ := ih
    have hself : ¬ reference.isSelf scope.view = true := by
      rw [View.circles, Bool.or_eq_false_iff] at straight
      simp [straight.2]
    obtain ⟨outcome, run, route, later, hext, hrun, hdestination⟩ :=
      reference.exists_arrives setup hscope hstate.session hself
    have heq := route.on_eq
    rw [arrived] at heq
    cases heq
    obtain ⟨hplace, hroot⟩ := hdestination destination rfl
    refine ⟨later, State.recordExpansion ⟨after, state.notes⟩, rfl,
      (hscope.mono hext).descend hroot _ _, hplace, ⟨hrun, ?_⟩, hcomputed⟩
    exact (hstate.memo.mono hext).congr
      (by rw [State.recordExpansion, route.memo_eq]; rfl) (by
        rw [State.recordExpansion, route.memo_eq]; rfl)

/-- Wherever a call comes to an object, under distinct names as in every map, and
the object to a result, its frame is kept. A remembered result was computed at
another place of the call, and the outcome is that of the reference there. -/
theorem Node.deref_frames (setup : Setup) {session : Session} {schemas : List Node}
    {schema : Node} (h : session.Holds schemas) (hschema : schema ∈ schemas)
    {way : Way} {hops : Nat} {scope : Scope} {id : NodeId}
    {keywords : Keywords NodeId} {run after : Run} {result : Node}
    (reaches : Reaches setup session schema way hops scope
      (.node (.object id keywords)) run) (hnames : (Members.names keywords).Nodup)
    (hresult : (Node.deref setup hops (.object id keywords) scope).on run =
      (.ok result, after)) :
    ∃ hops' scope' run' outcome,
      Computes setup session schema hops' scope' run' id keywords outcome result ∧
      ((run.memo.recallNode (.object id keywords)).1 = none →
        hops' = hops ∧ scope' = scope ∧ run' = run) ∧
      Keywords.Frames keywords outcome result := by
  cases hit : (run.memo.recallNode (.object id keywords)).1 with
  | none =>
    obtain ⟨outcome, linked, hfollow, hframes⟩ :=
      Node.frames_of_fresh hnames hit hresult
    exact ⟨hops, scope, run, outcome,
      ⟨⟨way, reaches⟩, hit, ⟨linked, hfollow⟩, ⟨after, hresult⟩⟩,
      fun _ => ⟨rfl, rfl, rfl⟩, hframes⟩
  | some remembered =>
    obtain ⟨layout, state, rfl, _, hnode, hstate, hcomputed⟩ :=
      reaches.exists_stage h hschema
    obtain ⟨_, _, note, hnote, hmark, hnoted⟩ :=
      hstate.memo.nodes _ (Memo.mem_nodes_of_recallNode hit)
    rw [(Schema.Laid.object_iff.mp hnode).1.2] at hmark
    obtain ⟨hops', scope', run', outcome, hcomputes⟩ :=
      hcomputed note hnote id keywords hmark
    have hgiven : result = remembered := by
      rw [Node.deref_eq, Schema.derefWith_object, Action.on_bind,
        Action.on_recallNode, hit] at hresult
      cases hresult
      rfl
    rw [hnoted, ← hgiven] at hcomputes
    refine ⟨hops', scope', run', outcome, hcomputes, ?_, hcomputes.frames hnames⟩
    intro hnone
    cases hnone

/-- A reference with keywords beside it, one of which its target has, too. -/
def titled : Document :=
  .object () [
    ("$ref", .value (.str "#/$defs/base")),
    ("title", .value (.str "mine")),
    ("anyOf", .list [.schema (.object () [("$ref", .value (.str "#/$defs/base"))]),
      .schema (.bool true)]),
    ("$defs", .map [("base", .schema (.object () [("title", .value (.str "theirs")),
      ("type", .value (.str "string"))]))])]

def titledKeywords : Keywords NodeId :=
  ((Session.empty.mint titled).1.keywords?).getD []

/-- Where a call for it begins. -/
def titledRun : Run :=
  (Setup.begin ⟨{}, .none⟩ (Session.empty.mint titled).2
    (.object 0 titledKeywords)).toRun

/-- The title beside the reference stays, whatever its target has for one. -/
theorem deref_frames_titled :
    (Session.empty.mint titled).1 = .object 0 titledKeywords ∧
    (Members.names titledKeywords).Nodup ∧
    ∃ mark others after outcome,
      (Node.deref ⟨{}, .none⟩ 10 (.object 0 titledKeywords)
        (.start (.object 0 titledKeywords) none)).on titledRun = (.ok
        (.object mark others), after) ∧
      Keywords.Frames titledKeywords outcome (.object mark others) ∧
      Members.get? "title" others = some (.value (.str "mine")) := by
  have hroot : (Session.empty.mint titled).1 = .object 0 titledKeywords := rfl
  have hnames : (Members.names titledKeywords).Nodup := by decide
  have hholds : (Session.empty.mint titled).2.Holds [.object 0 titledKeywords] :=
    hroot ▸ Session.holds_empty.mint titled
  have hobject : ((((Node.deref ⟨{}, .none⟩ 10 (.object 0 titledKeywords)
      (.start (.object 0 titledKeywords) none)).on titledRun).1.toOption).bind
        Schema.keywords?).isSome = true := by decide +kernel
  refine ⟨hroot, hnames, ?_⟩
  cases hon : (Node.deref ⟨{}, .none⟩ 10 (.object 0 titledKeywords)
      (.start (.object 0 titledKeywords) none)).on titledRun with
  | mk answer after =>
    rw [hon] at hobject
    cases answer with
    | error error => cases hobject
    | ok result =>
      cases result with
      | bool value => cases hobject
      | object mark others =>
        obtain ⟨_, _, _, outcome, _, _, hframes⟩ :=
          Node.deref_frames ⟨{}, .none⟩ hholds
          List.mem_cons_self .start hnames hon
        exact ⟨mark, others, after, outcome, rfl, hframes,
          hframes.1.data _ _ rfl rfl rfl⟩

end SchemaDeref
