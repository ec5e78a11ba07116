import SchemaDeref.Proofs.Correspondences
import SchemaDeref.Proofs.Names
import SchemaDeref.Proofs.Waiting

/-!
# Calls that are repeated

A call that is made again finds the documents which the first one loaded, as the
very nodes they became then, and so hands out fewer identities. Up to that it takes
the same steps (`Replays`): whatever the first call looked up and found is still
there under its name, what it loaded is found under the name it was loaded by, and
where it failed nothing was added any more. So its result is the same, and it asks
for nothing (`dereference_repeated`). Where the first call waits for an answer,
branches beside the one that asked go on in the meantime, and the second call, which
does not wait, may end otherwise (`dereferenceWaiting_races`).
-/

namespace SchemaDeref

variable {ι : Type}

/-! ## Identities in catalogs -/

/-- The marks of all objects in the documents of a catalog. -/
def Catalog.marks (catalog : Catalog ι) : List ι :=
  catalog.entries.flatMap fun entry => entry.2.allMarks

namespace Catalog

theorem mem_marks_of_get? {catalog : Catalog ι} {name : String} {document : Schema ι}
    (h : catalog.get? name = some document) : document.allMarks ⊆ catalog.marks :=
  fun _ hmark => List.mem_flatMap.mpr ⟨_, mem_of_get? h, hmark⟩

/-- Registering a document adds no marks but those of the document. -/
theorem mem_marks_register {catalog : Catalog ι} {document : Schema ι}
    {uri : Option String} {mark : ι}
    (h : mark ∈ (catalog.register document uri).marks) :
    mark ∈ catalog.marks ∨ mark ∈ document.allMarks := by
  rw [register_eq] at h
  split at h
  · exact .inl h
  · obtain ⟨entry, hentry, hmark⟩ := List.mem_flatMap.mp h
    rcases mem_addAll hentry with ⟨resource, hresource, heq⟩ | hentry
    · rw [heq] at hmark
      exact .inr (Schema.allMarks_subset (Schema.mem_nodes_of_named hresource) hmark)
    · exact .inl (List.mem_flatMap.mpr ⟨entry, hentry, hmark⟩)

/-- A document is found under the name it was registered by, if nothing was found
there before. -/
theorem get?_register_normal {catalog : Catalog ι} {name : String}
    (document : Schema ι) (hfree : catalog.get? name = none)
    (hnormal : Uri.IsNormal name) :
    (catalog.register document (some name)).get? name = some document := by
  have hsame : ∀ catalog : Catalog ι, catalog.get? (Uri.joinName none name) =
      catalog.get? name := by
    intro catalog
    rw [get?, hnormal, get?]
  have hnew : catalog.contains (Uri.joinName none name) = false := by
    rw [contains, hsame, hfree]
    rfl
  rw [← hsame]
  exact get?_register hnew document

end Catalog

/-! ## Runs that go on -/

/-- What every step does to a run: identities are handed out in ascending order,
documents are added that hold new identities alone, and requests are made. -/
structure Run.Grows (before after : Run) : Prop where
  next_le : before.next ≤ after.next
  asked : before.asked <+: after.asked
  within : before.catalog.Within after.catalog
  marks : ∀ id ∈ after.catalog.marks,
    id ∈ before.catalog.marks ∨ before.next ≤ id ∧ id < after.next

namespace Run.Grows

theorem of_eq {before after : Run} (hnext : before.next ≤ after.next)
    (hcatalog : after.catalog = before.catalog)
    (hasked : after.asked = before.asked) :
    before.Grows after where
  next_le := hnext
  asked := hasked ▸ List.prefix_refl _
  within := hcatalog ▸ .refl _
  marks _ hid := .inl (hcatalog ▸ hid)

theorem refl (run : Run) : run.Grows run := of_eq (Nat.le_refl _) rfl rfl

theorem trans {a b c : Run} (hab : a.Grows b) (hbc : b.Grows c) : a.Grows c where
  next_le := Nat.le_trans hab.next_le hbc.next_le
  asked := hab.asked.trans hbc.asked
  within := hab.within.trans hbc.within
  marks id hid := by
    rcases hbc.marks id hid with hid | ⟨hle, hlt⟩
    · exact (hab.marks id hid).imp_right fun h =>
        ⟨h.1, Nat.lt_of_lt_of_le h.2 hbc.next_le⟩
    · exact .inr ⟨Nat.le_trans hab.next_le hle, hlt⟩

end Run.Grows

/-! ## What a call leaves to one that repeats it -/

/-- The sessions before and after a call. -/
structure Replay where
  before : Session
  after : Session

namespace Replay

variable (replay : Replay)

/-- The identities that stand for the same objects in the repeated call: those there
were before, and those of the documents that are found by now. -/
def Stays (id : NodeId) : Prop :=
  id < replay.before.next ∨ id ∈ replay.after.catalog.marks

instance : DecidablePred replay.Stays :=
  fun id => inferInstanceAs
    (Decidable (id < replay.before.next ∨ id ∈ replay.after.catalog.marks))

/-- The next identity of the repeated call where that of the first call is this one. -/
def next (id : NodeId) : NodeId :=
  replay.after.next + (List.range id).countP fun old => !decide (replay.Stays old)

/-- The identity in the repeated call of an object of the first one. -/
def rename (id : NodeId) : NodeId := if replay.Stays id then id else replay.next id

/-- The run of the repeated call that goes with a run of the first one. -/
def run (run : Run) : Run where
  catalog := replay.after.catalog
  asked := replay.after.asked
  next := replay.next run.next
  memo := run.memo.rename replay.rename
  warnings := run.warnings

variable {replay}

theorem rename_of_stays {id : NodeId} (h : replay.Stays id) :
    replay.rename id = id := if_pos h

theorem next_succ_of_stays {id : NodeId} (h : replay.Stays id) :
    replay.next (id + 1) = replay.next id := by
  simp [next, List.range_succ, h]

theorem next_succ_of_not_stays {id : NodeId} (h : ¬ replay.Stays id) :
    replay.next (id + 1) = replay.next id + 1 := by
  simp [next, List.range_succ, h, Nat.add_assoc]

theorem next_mono {a b : NodeId} (h : a ≤ b) : replay.next a ≤ replay.next b := by
  induction h with
  | refl => exact Nat.le_refl _
  | step _ ih =>
    refine Nat.le_trans ih ?_
    rw [next, next, List.range_succ, List.countP_append]
    exact Nat.add_le_add_left (Nat.le_add_right _ _) _

/-- Where all identities stay, none is handed out. -/
theorem next_eq_of_stays {first last : NodeId} (hle : first ≤ last)
    (h : ∀ id, first ≤ id → id < last → replay.Stays id) :
    replay.next last = replay.next first := by
  induction hle with
  | refl => rfl
  | @step last hle ih =>
    rw [next_succ_of_stays (h last hle (Nat.lt_succ_self last))]
    exact ih fun id hid hid' => h id hid (Nat.lt_succ_of_lt hid')

variable (replay)

/-- What is known of a call that is repeated. -/
structure Sound : Prop where
  next_le : replay.before.next ≤ replay.after.next
  bounded : ∀ id ∈ replay.after.catalog.marks, id < replay.after.next
  /-- The names of the documents that were asked for in the call. -/
  normal : ∀ asked name, replay.before.asked <+: asked → asked ++ [name] <+:
    replay.after.asked →
    Uri.IsNormal name

/-- What is known of a run of the call from what was before. -/
structure Begins (run : Run) : Prop where
  next_le : replay.before.next ≤ run.next
  asked : replay.before.asked <+: run.asked
  bounded : ∀ id ∈ run.catalog.marks, id < run.next

/-- What is known of a run of the call from what comes after it. -/
structure Ends (run : Run) : Prop where
  asked : run.asked <+: replay.after.asked
  within : run.catalog.Within replay.after.catalog
  /-- Identities that are handed out later are not those of documents that were
  there. -/
  settled : ∀ id ∈ replay.after.catalog.marks, id < run.next → id ∈ run.catalog.marks

variable {replay}

/-- Objects that are distinct in the first call are distinct in the repeated one. -/
theorem Sound.rename_injective (h : replay.Sound) : replay.rename.Injective := by
  have hlt : ∀ {id other : NodeId}, replay.Stays id → ¬ replay.Stays other →
      replay.rename id < replay.rename other := by
    intro id other hid hother
    have hbound : id < replay.after.next :=
      hid.elim (Nat.lt_of_lt_of_le · h.next_le) (h.bounded id)
    rw [rename_of_stays hid, rename, if_neg hother]
    exact Nat.lt_of_lt_of_le hbound (Nat.le_add_right _ _)
  have hlt' : ∀ {id other : NodeId}, ¬ replay.Stays id → ¬ replay.Stays other →
      id < other →
      replay.rename id < replay.rename other := by
    intro id other hid hother hless
    have hnext : replay.next (id + 1) ≤ replay.next other := next_mono hless
    rw [next_succ_of_not_stays hid] at hnext
    rwa [rename, if_neg hid, rename, if_neg hother]
  intro a b hab
  by_cases ha : replay.Stays a
  · by_cases hb : replay.Stays b
    · rwa [rename_of_stays ha, rename_of_stays hb] at hab
    · exact absurd hab (Nat.ne_of_lt (hlt ha hb))
  · by_cases hb : replay.Stays b
    · exact absurd hab.symm (Nat.ne_of_lt (hlt hb ha))
    · rcases Nat.lt_trichotomy a b with hless | heq | hless
      · exact absurd hab (Nat.ne_of_lt (hlt' ha hb hless))
      · exact heq
      · exact absurd hab.symm (Nat.ne_of_lt (hlt' hb ha hless))

theorem Begins.grow {run after : Run} (h : replay.Begins run)
    (hgrows : run.Grows after) :
    replay.Begins after where
  next_le := Nat.le_trans h.next_le hgrows.next_le
  asked := h.asked.trans hgrows.asked
  bounded id hid := by
    rcases hgrows.marks id hid with hid | ⟨_, hlt⟩
    · exact Nat.lt_of_lt_of_le (h.bounded id hid) hgrows.next_le
    · exact hlt

theorem Ends.before {run after : Run} (h : replay.Ends after)
    (hgrows : run.Grows after) :
    replay.Ends run where
  asked := hgrows.asked.trans h.asked
  within := hgrows.within.trans h.within
  settled id hid hlt := by
    rcases hgrows.marks id
      (h.settled id hid (Nat.lt_of_lt_of_le hlt hgrows.next_le)) with hid | ⟨hle, _⟩
    · exact hid
    · exact absurd hlt (Nat.not_lt.mpr hle)

/-- What is found in the first call is found in the repeated one, as the same node. -/
theorem rename_of_get? {name : String} {document : Node}
    (h : replay.after.catalog.get? name = some document) :
    document.rename replay.rename = document :=
  Schema.rename_eq_self fun _ hid =>
    rename_of_stays (.inr (Catalog.mem_marks_of_get? h hid))

/-- Identities that are handed out for anything but documents of the catalog are new
in the repeated call. -/
theorem renumbers {run after : Run} (hbegins : replay.Begins run)
    (hends : replay.Ends after) (hcatalog : after.catalog = run.catalog) :
    Renumbers replay.rename replay.next run.next after.next := by
  intro id hle hlt
  have hnew : ¬ replay.Stays id := by
    rintro (hold | hmark)
    · exact absurd (Nat.lt_of_lt_of_le hold hbegins.next_le) (Nat.not_lt.mpr hle)
    · have hmark' := hends.settled id hmark hlt
      rw [hcatalog] at hmark'
      exact absurd (hbegins.bounded id hmark') (Nat.not_lt.mpr hle)
  exact ⟨if_neg hnew, next_succ_of_not_stays hnew⟩

end Replay

/-! ## Steps that are repeated -/

/-- A step on a run of the first call, and the one of the repeated call in its
place: from the run that goes with that of the first it comes to what goes with its
result. -/
structure Replays (replay : Replay) {α β : Type} (g : α → β) (action : Action α)
    (run : Run) (again : Action β) (run' : Run) : Prop where
  grows : ∀ {outcome after}, action.on run = (outcome, after) → run.Grows after
  ok : ∀ {a after}, action.on run = (.ok a, after) → replay.Begins run →
    replay.Ends after →
    again.on run' = (.ok (g a), replay.run after)
  /-- A step that fails is the last one of its call. -/
  error : ∀ {error after}, action.on run = (.error error, after) → replay.Begins run →
    replay.Ends after → after.catalog = replay.after.catalog →
      (again.on run').1 = .error error

namespace Replays

variable {replay : Replay} {α β γ δ : Type} {run run' : Run}

/-- A step that does not fail. -/
theorem of_ok {g : α → β} {action : Action α} {again : Action β} {a : α} {next : Run}
    (hon : action.on run = (.ok a, next)) (hgrows : run.Grows next)
    (hagain : replay.Begins run → replay.Ends next →
      again.on run' = (.ok (g a), replay.run next)) :
    Replays replay g action run again run' where
  grows h := by
    rw [hon] at h
    cases h
    exact hgrows
  ok h := by
    rw [hon] at h
    cases h
    exact hagain
  error h := by
    rw [hon] at h
    cases h

theorem throw {g : α → β} (error : DerefError) :
    Replays replay g (MonadExcept.throw error) run (MonadExcept.throw error)
      run' where
  grows h := by
    cases h
    exact .refl _
  ok h := by cases h
  error h _ _ _ := by
    cases h
    rfl

theorem bind {g : α → β} {g' : γ → δ} {first : Action α} {first' : Action β}
    {following : α → Action γ} {following' : β → Action δ}
    (hfirst : Replays replay g first run first' run')
    (hnext : ∀ a after, first.on run = (.ok a, after) →
      Replays replay g' (following a) after (following' (g a)) (replay.run after)) :
    Replays replay g' (first >>= following) run (first' >>= following') run' where
  grows {outcome last} h := by
    rw [Action.on_bind] at h
    split at h
    · rename_i a after heq
      exact (hfirst.grows heq).trans ((hnext a after heq).grows h)
    · rename_i error after heq
      cases h
      exact hfirst.grows heq
  ok h hbegins hends := by
    obtain ⟨a, middle, hon, hon'⟩ := Action.on_bind_eq_ok.mp h
    have hnext' := hnext a middle hon
    have hmiddle := hends.before (hnext'.grows hon')
    refine Action.on_bind_eq_ok.mpr ⟨g a, _, hfirst.ok hon hbegins hmiddle, ?_⟩
    exact hnext'.ok hon' (hbegins.grow (hfirst.grows hon)) hends
  error {error last} h hbegins hends hlast := by
    rw [Action.on_bind] at h ⊢
    split at h
    · rename_i a after heq
      have hnext' := hnext a after heq
      rw [hfirst.ok heq hbegins (hends.before (hnext'.grows h))]
      exact hnext'.error h (hbegins.grow (hfirst.grows heq)) hends hlast
    · rename_i failure after heq
      cases h
      have hfails := hfirst.error heq hbegins hends hlast
      cases hagain : first'.on run' with
      | mk outcome middle =>
        rw [hagain] at hfails
        cases hfails
        rfl

/-! The primitive steps. -/

theorem onMemo {g : α → β} {f : Memo → α × Memo} {f' : Memo → β × Memo}
    (h : ∀ memo, f' (memo.rename replay.rename) =
      (g (f memo).1, (f memo).2.rename replay.rename)) :
    Replays replay g (Action.onMemo f) run (Action.onMemo f') (replay.run run) := by
  refine of_ok (Action.on_onMemo f run) (.of_eq (Nat.le_refl _) rfl rfl) fun _ _ => ?_
  simp only [Action.on_onMemo, Replay.run, h]

theorem newObject (keywords : Keywords NodeId) :
    Replays replay (Schema.rename replay.rename) (Action.newObject keywords) run
      (Action.newObject (renameEntries replay.rename keywords)) (replay.run run) := by
  refine of_ok (Action.on_newObject keywords run) (.of_eq (Nat.le_succ _) rfl rfl)
    fun hbegins hends => ?_
  obtain ⟨hid, hnext⟩ :=
    Replay.renumbers hbegins hends rfl run.next (Nat.le_refl _) (Nat.lt_succ_self _)
  simp only [Action.on_newObject, Replay.run, Schema.rename, hid, hnext]

theorem mint (document : Document) :
    Replays replay (Schema.rename replay.rename) (Action.mint document) run
      (Action.mint document) (replay.run run) := by
  refine of_ok (Action.on_mint document run)
    (.of_eq (document.numberedIn_mint _).le rfl rfl) fun hbegins hends => ?_
  have hmint := document.mint_renumbered run.next (Replay.renumbers hbegins hends rfl)
  simp only [Action.on_mint, Replay.run, hmint]

/-- A document that is found is found again, and one that is loaded is found by its
name. A document that is asked for in vain is asked for in vain again. -/
theorem load (hsound : replay.Sound) (answer : String → Reply)
    (name target : String) :
    Replays replay (Schema.rename replay.rename)
      (Action.load (.ofFunction answer) name target) run
      (Action.load (.ofFunction answer) name target) (replay.run run) where
  grows {outcome after} hon := by
    rw [Action.on_load] at hon
    split at hon
    · cases hon
      exact .refl run
    · simp only [Loader.ofFunction] at hon
      cases hreply : answer name with
      | document document =>
        simp only [hreply] at hon
        cases hon
        refine ⟨(document.numberedIn_mint _).le, List.prefix_append _ _,
          Catalog.within_register _ _ _, fun id hid => ?_⟩
        exact (Catalog.mem_marks_register hid).imp_right
          (document.mem_allMarks_mint id _).mp
      | absent | failed | refused =>
        simp only [hreply] at hon
        cases hon
        exact ⟨Nat.le_refl _, List.prefix_append _ _, .refl _, fun id hid => .inl hid⟩
  ok {node after} hon hbegins hends := by
    rw [Action.on_load] at hon
    split at hon
    · rename_i document hget
      cases hon
      have hagain := hends.within _ _ hget
      rw [Action.on_load]
      simp only [Replay.run, hagain, Replay.rename_of_get? hagain]
    · rename_i hfree
      simp only [Loader.ofFunction] at hon
      cases hreply : answer name with
      | document document =>
        simp only [hreply] at hon
        cases hon
        have hnormal := hsound.normal _ _ hbegins.asked hends.asked
        have hagain := hends.within _ _ (Catalog.get?_register_normal _ hfree hnormal)
        -- all identities of the document are those of a document that is found by now
        have hnext : replay.next (document.mint run.next).2 = replay.next run.next :=
          Replay.next_eq_of_stays (document.numberedIn_mint run.next).le
            fun id hle hlt =>
            .inr (Catalog.mem_marks_of_get? hagain
              ((document.mem_allMarks_mint id run.next).mpr ⟨hle, hlt⟩))
        rw [Action.on_load]
        simp only [Replay.run, hagain, Replay.rename_of_get? hagain]
        exact congrArg (fun next => (_, { replay.run run with next })) hnext.symm
      | absent | failed | refused =>
        simp only [hreply] at hon
        cases hon
  error {error after} hon _ _ hlast := by
    rw [Action.on_load] at hon
    split at hon
    · cases hon
    · rename_i hfree
      simp only [Loader.ofFunction] at hon
      cases hreply : answer name with
      | document document =>
        simp only [hreply] at hon
        cases hon
      | absent | failed | refused =>
        simp only [hreply] at hon
        cases hon
        have hfree' : replay.after.catalog.get? name = none := hlast ▸ hfree
        rw [Action.on_load]
        simp only [Replay.run, hfree', Loader.ofFunction, hreply]

end Replays

/-- A call goes together with the one that repeats it. -/
def Replay.correspondence {replay : Replay} (hsound : replay.Sound)
    (settings : Settings) (answer : String → Reply) (session : Session)
    (schema : Node) :
    Correspondence ⟨settings, .ofFunction answer⟩ session schema where
  rename := replay.rename
  injective := hsound.rename_injective
  runs run run' := run' = replay.run run
  rel := Replays replay
  pure a := by
    rintro rfl
    exact .of_ok rfl (.refl _) fun _ _ => rfl
  throw error _ := .throw error
  bind hfirst hnext := hfirst.bind fun a after hon => hnext a after _ hon rfl
  memo h := by
    rintro rfl
    exact .onMemo h
  warn warning := by
    rintro rfl
    exact .of_ok (Action.on_warn warning _) (.of_eq (Nat.le_refl _) rfl rfl)
      fun _ _ => rfl
  newObject keywords := by
    rintro rfl
    exact .newObject keywords
  mint document := by
    rintro rfl
    exact .mint document
  load {_ name target _ _} _ := by
    rintro rfl
    exact .load hsound answer name target

/-! ## Calls -/

section

variable {settings : Settings} {answer : String → Reply} {session : Session}
  {schema : Node}

/-- From its first run to its last a call goes on as its steps do. -/
theorem Node.grows_deref {outcome : Except DerefError Node} {after : Run}
    (h : (Node.deref ⟨settings, .ofFunction answer⟩ settings.maxDepth schema
      (.start schema none)).on
      (Setup.begin ⟨settings, .ofFunction answer⟩ session schema).toRun =
        (outcome, after)) :
    (Setup.begin ⟨settings, .ofFunction answer⟩
      session schema).toRun.Grows after := by
  -- what is replayed makes no difference to the call itself, so it may be nothing
  have hsound : Replay.Sound ⟨.empty, .empty⟩ :=
    ⟨Nat.le_refl _, fun id hid => absurd hid List.not_mem_nil,
      fun asked name _ hasked => by simp [Session.empty] at hasked⟩
  exact ((Replay.correspondence hsound settings answer session schema).call
    rfl).grows h

theorem Schema.Laid.lt_of_mem_allMarks {layout : Layout} {node : Node}
    (h : node.Laid layout) {id : NodeId} (hid : id ∈ node.allMarks) :
    id < layout.next := by
  obtain ⟨s, hs, hmark⟩ := List.mem_filterMap.mp hid
  have hlies := h s hs
  cases s with
  | bool value => cases hmark
  | object mark keywords =>
    cases hmark
    exact hlies.1

/-- The documents of a session are made of objects that it has handed out. -/
theorem Session.Laid.lt_of_mem_marks {layout : Layout} (h : session.Laid layout)
    {id : NodeId} (hid : id ∈ session.catalog.marks) : id < session.next := by
  obtain ⟨entry, hentry, hmark⟩ := List.mem_flatMap.mp hid
  exact h.next_eq ▸ (h.catalog entry hentry).lt_of_mem_allMarks hmark

namespace Replay

/-- A call begins with the identities that were there before it. -/
theorem begins_begin {layout : Layout} (hsession : session.Laid layout)
    (hschema : schema.Laid layout) (setup : Setup) (after : Session) :
    Begins ⟨session, after⟩ (setup.begin session schema).toRun where
  next_le := Nat.le_refl _
  asked := List.prefix_refl _
  bounded _ := (setup.laid_begin hsession hschema).session.lt_of_mem_marks

/-- The last run of a call ends with what the call leaves behind. -/
theorem ends_last (before : Session) (last : Run) :
    Ends ⟨before, last.toSession⟩ last :=
  ⟨List.prefix_refl _, .refl _, fun _ hid _ => hid⟩

/-- A call is fit to be repeated if the names that were asked for in it are normal. -/
theorem sound_of_grows {first last : Run} {names : List String}
    (hbegins : Begins ⟨session, last.toSession⟩ first) (hgrows : first.Grows last)
    (hasked : last.asked = session.asked ++ names)
    (hnormal : ∀ name ∈ names, Uri.IsNormal name) :
    Sound ⟨session, last.toSession⟩ where
  next_le := Nat.le_trans hbegins.next_le hgrows.next_le
  bounded := (hbegins.grow hgrows).bounded
  normal asked name hbefore hafter := by
    obtain ⟨more, rfl⟩ := hbefore
    dsimp only at hafter
    rw [hasked, List.append_assoc, List.prefix_append_right_inj] at hafter
    exact hnormal name (hafter.subset (List.mem_append_right _ List.mem_cons_self))

/-- The schema of a call is registered when the call is repeated, and so are the
schemas in it. -/
theorem begin_again (setup : Setup) {after : Session}
    (hends : Ends ⟨session, after⟩ (setup.begin session schema).toRun) :
    (setup.begin after schema).toRun =
      Replay.run ⟨session, after⟩ (setup.begin session schema).toRun := by
  have hnext : next ⟨session, after⟩ session.next = after.next := by
    have hstays : ∀ id ∈ List.range session.next, Stays ⟨session, after⟩ id :=
      fun id hid => .inl (List.mem_range.mp hid)
    simpa [next, List.countP_eq_zero] using hstays
  have hregistered : after.catalog.register schema none = after.catalog :=
    Catalog.register_eq_self hends.within
  simp only [Setup.begin, run, hregistered, hnext]
  rfl

end Replay

/-- What a call comes to when it is repeated: the same node under other identities,
or the same failure. -/
theorem Node.deref_repeated {layout : Layout} (hsession : session.Laid layout)
    (hschema : schema.Laid layout) {result : Except DerefError Node} {last : Run}
    (hfirst : (Node.deref ⟨settings, .ofFunction answer⟩ settings.maxDepth schema
      (.start schema none)).on (Setup.begin ⟨settings, .ofFunction answer⟩
      session schema).toRun =
      (result, last))
    {names : List String} (hasked : last.asked = session.asked ++ names)
    (hnormal : ∀ name ∈ names, Uri.IsNormal name) :
    (∀ node, result = .ok node →
      (Node.deref ⟨settings, .ofFunction answer⟩ settings.maxDepth schema
        (.start schema none)).on
        (Setup.begin ⟨settings, .ofFunction answer⟩ last.toSession schema).toRun =
      (.ok (node.rename (Replay.rename ⟨session, last.toSession⟩)),
        Replay.run ⟨session, last.toSession⟩ last)) ∧
    ∀ error, result = .error error →
      ((Node.deref ⟨settings, .ofFunction answer⟩ settings.maxDepth schema
        (.start schema none)).on
        (Setup.begin ⟨settings, .ofFunction answer⟩
          last.toSession schema).toRun).1 = .error error := by
  have hbegins := Replay.begins_begin hsession hschema
      ⟨settings, .ofFunction answer⟩ last.toSession
  have hgrows := Node.grows_deref hfirst
  have hends := Replay.ends_last session last
  have hsound := Replay.sound_of_grows hbegins hgrows hasked hnormal
  -- the schema of the call is made of objects that were there before it
  have hstays : schema.rename (Replay.rename ⟨session, last.toSession⟩) = schema := by
    refine Schema.rename_eq_self fun id hid => Replay.rename_of_stays (.inl ?_)
    exact hsession.next_eq ▸ hschema.lt_of_mem_allMarks hid
  have hagain : Replays ⟨session, last.toSession⟩ _ _ _ _ _ :=
    (Replay.correspondence hsound settings answer session schema).call rfl
  dsimp only [Replay.correspondence] at hagain
  rw [hstays] at hagain
  rw [Replay.begin_again ⟨settings, .ofFunction answer⟩ (hends.before hgrows)]
  constructor
  · rintro node rfl
    exact hagain.ok hfirst hbegins hends
  · rintro error rfl
    exact hagain.error hfirst hbegins hends rfl

/-- A name that is looked up and stands for itself is one under which its document
is found. -/
theorem LooksUp.isNormal {setup : Setup} {way : Way} {name : String}
    (h : LooksUp setup session schema way name) (hself : Uri.join none name = name) :
    Uri.IsNormal name := by
  obtain ⟨_, _, _, _, _, _, huri, hname⟩ := h
  exact Uri.isNormal_of_join (Uri.hash_not_mem_of_parts huri) hname hself

end

/-- What can be told of a report without identities. -/
def Report.erase (report : Report) : Document × List String × Stats :=
  (report.schema.erase, report.edges, report.stats)

/-- Let a loader give the same answer whenever it is asked for a name, and let the
names it is asked for in a call, which are all looked up before, be such as they
stand for themselves. Then the same call, made again, comes to the same result: an
equal schema with the same circular references and counts, or the same failure. If
it did not fail, it makes no request. -/
theorem dereference_repeated {setup : Setup} {answer : String → Reply}
    (hloader : setup.loader = .ofFunction answer) {session : Session}
    {schemas : List Node} {schema : Node} (h : session.Holds schemas)
    (hschema : schema ∈ schemas) {names : List String}
    (hasked : (dereference setup session schema).session.asked =
      session.asked ++ names)
    (hself : ∀ name ∈ names, Uri.join none name = name) :
    (dereference setup (dereference setup session schema).session
      schema).result.map Report.erase =
      (dereference setup session schema).result.map Report.erase ∧
    ((dereference setup session schema).result.isOk →
      (dereference setup (dereference setup session schema).session
        schema).session.asked =
        (dereference setup session schema).session.asked) := by
  obtain ⟨settings, loader⟩ := setup
  obtain rfl : loader = .ofFunction answer := hloader
  obtain ⟨looked, hlooked, hlooks⟩ :=
    exists_lookups ⟨settings, .ofFunction answer⟩ h hschema
  obtain rfl : looked = names := List.append_cancel_left (hlooked.symm.trans hasked)
  obtain ⟨layout, hsession, hschemas⟩ := h
  cases hfirst : (Node.deref ⟨settings, .ofFunction answer⟩ settings.maxDepth schema
      (.start schema none)).on
      (Setup.begin ⟨settings, .ofFunction answer⟩ session schema).toRun with
  | mk result last =>
    rw [dereference_eq_of_on hfirst] at hasked ⊢
    dsimp only at hasked ⊢
    obtain ⟨hok, herror⟩ :=
      Node.deref_repeated hsession (hschemas schema hschema) hfirst hasked
      fun name hname =>
        (hlooks name hname).elim fun way hway =>
          LooksUp.isNormal hway (hself name hname)
    cases result with
    | ok node =>
      rw [dereference_eq_of_on (hok node rfl)]
      refine ⟨?_, fun _ => rfl⟩
      simp only [Except.map, Report.erase, Schema.erase_rename]
      rfl
    | error error =>
      refine ⟨?_, fun hok => by cases hok⟩
      have hsecond := herror error rfl
      cases hon : (Node.deref ⟨settings, .ofFunction answer⟩ settings.maxDepth schema
          (.start schema none)).on
          (Setup.begin ⟨settings, .ofFunction answer⟩
            last.toSession schema).toRun with
      | mk outcome after =>
        rw [hon] at hsecond
        obtain rfl : outcome = .error error := hsecond
        rw [dereference_eq_of_on hon]
        rfl

/-- Let a loader give the same answer whenever it is asked for a name, let the names
it is asked for in a call be such as they stand for themselves, and let it answer
all of them at once. If the call does not fail, then the same call, made again,
comes to the same result, an equal schema with the same circular references and
counts, and makes no request. If it fails, it comes to the same failure when made
again, where this time, too, the loader answers at once. -/
theorem dereferenceWaiting_repeated {delay : Delay} {setup : Setup}
    {answer : String → Reply} (hloader : setup.loader = .ofFunction answer)
    {session : Session} {schemas : List Node} {schema : Node}
    (h : session.Holds schemas) (hschema : schema ∈ schemas) {names : List String}
    (hasked : (dereferenceWaiting delay setup session schema).session.asked =
      session.asked ++ names)
    (hself : ∀ name ∈ names, Uri.join none name = name)
    (hatOnce : delay.AtOnce session.asked (session.asked ++ names)) :
    let first := dereferenceWaiting delay setup session schema
    let second := dereferenceWaiting delay setup first.session schema
    (first.result.isOk ∨ delay.AtOnce first.session.asked second.session.asked →
      second.result.map Report.erase = first.result.map Report.erase) ∧
    (first.result.isOk → second.session.asked = first.session.asked) := by
  intro first second
  have hfirst : first = dereference setup session schema :=
    dereferenceWaiting_eq (hasked.symm ▸ hatOnce)
  rw [show dereferenceWaiting delay setup session schema = first from rfl, hfirst]
    at hasked
  obtain ⟨hresult, hrequests⟩ := dereference_repeated hloader h hschema hasked hself
  rw [← hfirst] at hresult hrequests
  -- where the first call succeeds, the second has nothing to wait for
  have hsecond : first.result.isOk ∨ delay.AtOnce first.session.asked
      second.session.asked →
      second = dereference setup first.session schema := by
    rintro (hok | hagain)
    · refine dereferenceWaiting_eq_of_atOnce ?_
      rw [hrequests hok]
      exact .refl delay _
    · exact dereferenceWaiting_eq hagain
  refine ⟨fun hcalm => ?_, fun hok => ?_⟩
  · rw [hsecond hcalm, hresult]
  · rw [hsecond (.inl hok), hrequests hok]

/-- A delay of the answers for names that are not those of documents of a person. -/
def elsewhere : Delay :=
  .ofFunction fun name => if name ∈ ["urn:b", "urn:c"] then 0 else 1

/-- A call for a schema that refers to two documents. -/
def personCall : Completed :=
  dereferenceWaiting elsewhere ⟨{}, namesLoader⟩ (Session.empty.mint person).2
    (Session.empty.mint person).1

/-- The second call finds both documents. -/
theorem dereferenceWaiting_repeated_person :
    (∀ name ∈ ["urn:b", "urn:c"], Uri.join none name = name) ∧
      elsewhere.AtOnce [] ["urn:b", "urn:c"] ∧ personCall.result.isOk ∧
      personCall.session.asked = ["urn:b", "urn:c"] ∧
      (dereferenceWaiting elsewhere ⟨{}, namesLoader⟩ personCall.session
        (Session.empty.mint person).1).result.map Report.erase =
          personCall.result.map Report.erase ∧
      (dereferenceWaiting elsewhere ⟨{}, namesLoader⟩ personCall.session
        (Session.empty.mint person).1).session.asked = ["urn:b", "urn:c"] := by
  have self : ∀ name ∈ ["urn:b", "urn:c"], Uri.join none name = name := by
    decide +kernel
  have ok : personCall.result.isOk := by decide +kernel
  have asked : personCall.session.asked = ["urn:b", "urn:c"] := by decide +kernel
  have atOnce : elsewhere.AtOnce [] ["urn:b", "urn:c"] := .ofFunction [] (by decide)
  have fresh : (Session.empty.mint person).2.asked = [] := rfl
  have requests : personCall.session.asked =
      (Session.empty.mint person).2.asked ++ ["urn:b", "urn:c"] := by
    rw [asked, fresh, List.nil_append]
  have loader : Setup.loader ⟨{}, namesLoader⟩ = .ofFunction
      fun _ => .document twoNames := rfl
  rw [personCall] at requests
  have again := dereferenceWaiting_repeated loader (Session.holds_empty.mint person)
    List.mem_cons_self requests self (by rwa [fresh])
  dsimp only at again
  rw [← personCall] at again
  exact ⟨self, atOnce, ok, asked, again.1 (.inl ok), (again.2 ok).trans asked⟩

/-- A property behind another document, and one that leads to the same definitions
without it. -/
def twoWays : Document :=
  .object () [("$id", .value (.str "http://a/root.json")),
    ("definitions", .map [
      ("A", .schema (.object () [("$ref", .value (.str "#/definitions/B"))])),
      ("B", .schema (.object () [("type", .value (.str "string"))]))]),
    ("properties", .map [
      ("x", .schema (.object () [("$ref", .value (.str "doc.json"))])),
      ("y", .schema (.object () [("$ref", .value (.str "#/definitions/A"))]))])]

/-- The other document. -/
def wayBack : Document :=
  .object () [("$ref", .value (.str "root.json#/definitions/A"))]

/-- A call in which the answer is waited for. -/
def twoWaysCall (session : Session) : Completed :=
  dereferenceWaiting (.ofFunction fun _ => 1)
    ⟨{ maxDepth := 2 }, .ofFunction fun _ => .document wayBack⟩ session
    (Session.empty.mint twoWays).1

/-- While `x` waits for its document, `y` is dereferenced, and what is remembered of
it saves `x` a hop that would be one too many. In the second call nothing waits, and
`x` is dereferenced first. -/
theorem dereferenceWaiting_races :
    Uri.join none "http://a/doc.json" = "http://a/doc.json" ∧
    (twoWaysCall (Session.empty.mint twoWays).2).session.asked =
      ["http://a/doc.json"] ∧
    (twoWaysCall (Session.empty.mint twoWays).2).result.isOk ∧
    (twoWaysCall (twoWaysCall (Session.empty.mint twoWays).2).session).error? =
      some (.tooDeep 2 "#/definitions/B") := by
  refine ⟨?_, ?_, ?_, ?_⟩
  all_goals decide +kernel

end SchemaDeref
