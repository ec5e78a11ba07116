import SchemaDeref.Proofs.Correspondences
import SchemaDeref.Proofs.Depth
import SchemaDeref.Proofs.Registered
import SchemaDeref.Proofs.Replay

/-!
# Unrelated documents

A session may hold documents that another one lacks. In a call that looks up none of
their names they make no difference, although the catalogs drift apart on the way:
what is registered in a call under a name that is taken in one session only is filed
in the other. The names that are taken in both, or in neither, stay in step
(`Extension.Along`), and only these are looked up; new objects get other identities,
which makes no difference either (`dereference_unrelated`).
-/

namespace SchemaDeref

variable {ι κ : Type}

/-! ## Names in step -/

/-- Registering a document keeps a name in step with what is under it in a catalog
of other marks. -/
theorem Catalog.get?_register_rename (f : ι → κ) {catalog : Catalog ι}
    {catalog' : Catalog κ} {name : String}
    (h : catalog'.get? name = (catalog.get? name).map (Schema.rename f))
    (document : Schema ι) (uri : Option String) :
    (catalog'.register (document.rename f) uri).get? name =
      ((catalog.register document uri).get? name).map (Schema.rename f) := by
  rw [register_eq, register_eq, nameFor?_rename]
  split
  · exact h
  · rename_i given _
    rw [get?_addAll, get?_addAll, h, Schema.named_rename, List.find?_map,
      Option.map_map]
    cases catalog.get? name with
    | some old => rfl
    | none =>
      simp only [Option.map_none, Option.none_or, Option.map_map]
      rfl

/-! ## Sessions with further documents -/

/-- A session, and one that has further documents. -/
structure Extension where
  small : Session
  large : Session

namespace Extension

variable (ext : Extension)

/-- A name with a document in the large session only. -/
def IsFurther (name : String) : Prop :=
  ext.large.catalog.contains name = true ∧ ¬ ext.small.catalog.contains name = true

/-- The next identity in the large session where that in the small one is this. -/
def next (id : NodeId) : NodeId := ext.large.next + (id - ext.small.next)

/-- The identity in the large session of an object of a call in the small one: new
objects are counted from where each session begins. -/
def rename (id : NodeId) : NodeId := if id < ext.small.next then id else ext.next id

variable {ext}

theorem rename_of_lt {id : NodeId} (h : id < ext.small.next) :
    ext.rename id = id := if_pos h

theorem rename_of_le {id : NodeId} (h : ext.small.next ≤ id) :
    ext.rename id = ext.next id :=
  if_neg (Nat.not_lt.mpr h)

theorem rename_injective (hle : ext.small.next ≤ ext.large.next) :
    ext.rename.Injective := by
  have hlt : ∀ {id other : NodeId}, id < ext.small.next → ext.small.next ≤ other →
      ext.rename id < ext.rename other := by
    intro id other hid hother
    rw [rename_of_lt hid, rename_of_le hother]
    exact Nat.lt_of_lt_of_le (Nat.lt_of_lt_of_le hid hle) (Nat.le_add_right _ _)
  intro a b hab
  rcases Nat.lt_or_ge a ext.small.next with ha | ha <;>
    rcases Nat.lt_or_ge b ext.small.next with hb | hb
  · rwa [rename_of_lt ha, rename_of_lt hb] at hab
  · exact absurd hab (Nat.ne_of_lt (hlt ha hb))
  · exact absurd hab.symm (Nat.ne_of_lt (hlt hb ha))
  · rw [rename_of_le ha, rename_of_le hb] at hab
    have hsub := Nat.add_left_cancel hab
    rw [← Nat.sub_add_cancel ha, hsub, Nat.sub_add_cancel hb]

theorem renumbers {first last : NodeId} (h : ext.small.next ≤ first) :
    Renumbers ext.rename ext.next first last := by
  intro id hid _
  have hle := Nat.le_trans h hid
  refine ⟨rename_of_le hle, ?_⟩
  rw [next, Nat.sub_add_comm hle]
  rfl

variable (ext)

/-- Runs of two calls, one in each session, that are in step. -/
structure Along (run run' : Run) : Prop where
  next_le : ext.small.next ≤ run.next
  next_eq : run'.next = ext.next run.next
  memo_eq : run'.memo = run.memo.rename ext.rename
  warnings_eq : run'.warnings = run.warnings
  asked : ∃ requests, run.asked = ext.small.asked ++ requests ∧
    run'.asked = ext.large.asked ++ requests
  catalog : ∀ name, ¬ ext.IsFurther name →
    run'.catalog.get? name = (run.catalog.get? name).map (Schema.rename ext.rename)

namespace Along

variable {ext} {run run' : Run}

theorem asking (h : ext.Along run run') (name : String) :
    ext.Along (Action.asking name run) (Action.asking name run') where
  next_le := h.next_le
  next_eq := h.next_eq
  memo_eq := h.memo_eq
  warnings_eq := h.warnings_eq
  asked := by
    obtain ⟨requests, hrun, hrun'⟩ := h.asked
    refine ⟨requests ++ [name], ?_, ?_⟩
    · rw [Action.asking, hrun, List.append_assoc]
    · rw [Action.asking, hrun', List.append_assoc]
  catalog := h.catalog

theorem warn (h : ext.Along run run') (warning : Warning) :
    ext.Along { run with warnings := run.warnings ++ [warning] }
      { run' with warnings := run'.warnings ++ [warning] } where
  next_le := h.next_le
  next_eq := h.next_eq
  memo_eq := h.memo_eq
  warnings_eq := congrArg (· ++ [warning]) h.warnings_eq
  asked := h.asked
  catalog := h.catalog

theorem remember (h : ext.Along run run') {memo memo' : Memo}
    (hmemo : memo' = memo.rename ext.rename) :
    ext.Along { run with memo } { run' with memo := memo' } where
  next_le := h.next_le
  next_eq := h.next_eq
  memo_eq := hmemo
  warnings_eq := h.warnings_eq
  asked := h.asked
  catalog := h.catalog

/-- New objects are in step. -/
theorem number (h : ext.Along run run') {next next' : NodeId} (hle : run.next ≤ next)
    (hnext : next' = ext.next next) :
    ext.Along { run with next } { run' with next := next' } where
  next_le := Nat.le_trans h.next_le hle
  next_eq := hnext
  memo_eq := h.memo_eq
  warnings_eq := h.warnings_eq
  asked := h.asked
  catalog := h.catalog

theorem mint_eq (h : ext.Along run run') (document : Document) :
    document.mint run'.next =
      ((document.mint run.next).1.rename ext.rename,
        ext.next (document.mint run.next).2) := by
  rw [h.next_eq]
  exact document.mint_renumbered run.next (renumbers h.next_le)

theorem register (h : ext.Along run run') (document : Node) (uri : Option String) :
    ext.Along { run with catalog := run.catalog.register document uri }
      { run' with
        catalog := run'.catalog.register (document.rename ext.rename) uri } where
  next_le := h.next_le
  next_eq := h.next_eq
  memo_eq := h.memo_eq
  warnings_eq := h.warnings_eq
  asked := h.asked
  catalog name hname :=
    Catalog.get?_register_rename ext.rename (h.catalog name hname) document uri

end Along

/-- What a step of each call comes to: the same value under other identities, or the
same failure, and runs that are in step. -/
inductive Agree {α β : Type} (g : α → β) :
    Except DerefError α × Run → Except DerefError β × Run → Prop
  | ok {run run'} (along : ext.Along run run') (a : α) :
    Agree g (.ok a, run) (.ok (g a), run')
  | error {run run'} (along : ext.Along run run') (error : DerefError) :
    Agree g (.error error, run) (.error error, run')

namespace Agree

variable {ext} {α β γ δ : Type} {run run' : Run}

theorem bind {g : α → β} {g' : γ → δ} {first : Action α} {first' : Action β}
    {following : α → Action γ} {following' : β → Action δ}
    (hfirst : ext.Agree g (first.on run) (first'.on run'))
    (hnext : ∀ a after after', first.on run = (.ok a, after) →
      ext.Along after after' →
      ext.Agree g' ((following a).on after) ((following' (g a)).on after')) :
    ext.Agree g' ((first >>= following).on run)
      ((first' >>= following').on run') := by
  rw [Action.on_bind, Action.on_bind]
  cases hon : first.on run with
  | mk outcome after =>
    cases hon' : first'.on run' with
    | mk outcome' after' =>
      rw [hon, hon'] at hfirst
      cases hfirst with
      | ok along a => exact hnext a after after' hon along
      | error along error => exact .error along error

theorem onMemo {g : α → β} {f : Memo → α × Memo} {f' : Memo → β × Memo}
    (h : ∀ memo, f' (memo.rename ext.rename) =
      (g (f memo).1, (f memo).2.rename ext.rename))
    (along : ext.Along run run') :
    ext.Agree g ((Action.onMemo f).on run) ((Action.onMemo f').on run') := by
  rw [Action.on_onMemo, Action.on_onMemo, along.memo_eq, h run.memo]
  exact .ok (along.remember rfl) (f run.memo).1

theorem newObject (keywords : Keywords NodeId) (along : ext.Along run run') :
    ext.Agree (Schema.rename ext.rename) ((Action.newObject keywords).on run)
      ((Action.newObject (renameEntries ext.rename keywords)).on run') := by
  obtain ⟨hid, hnext⟩ :=
    renumbers along.next_le run.next (Nat.le_refl _) (Nat.lt_succ_self _)
  rw [Action.on_newObject, Action.on_newObject, along.next_eq, ← hid, ← Schema.rename]
  refine .ok (along.number (Nat.le_succ _) ?_) _
  rw [hid, hnext]

theorem mint (document : Document) (along : ext.Along run run') :
    ext.Agree (Schema.rename ext.rename) ((Action.mint document).on run)
      ((Action.mint document).on run') := by
  rw [Action.on_mint, Action.on_mint, along.mint_eq]
  exact .ok (along.number (document.numberedIn_mint _).le rfl) _

/-- A document is looked up under a name that is in step. If it is loaded, the
loader has been asked the same so far. -/
theorem load {loader : Loader} {name target : String}
    (hanswers : ∀ requests name,
      loader (ext.large.asked ++ requests) name =
        loader (ext.small.asked ++ requests) name)
    (hname : ¬ ext.IsFurther name) (along : ext.Along run run') :
    ext.Agree (Schema.rename ext.rename) ((Action.load loader name target).on run)
      ((Action.load loader name target).on run') := by
  rw [Action.on_load, Action.on_load, along.catalog name hname]
  cases run.catalog.get? name with
  | some document => exact .ok along document
  | none =>
    have hreply : loader run'.asked name = loader run.asked name := by
      obtain ⟨requests, hrun, hrun'⟩ := along.asked
      rw [hrun, hrun', hanswers]
    have asking := along.asking name
    rw [Option.map_none, hreply]
    dsimp only
    cases loader run.asked name with
    | document document =>
      have minted := asking.number (document.numberedIn_mint run.next).le rfl
      simp only [Session.mint, asking.mint_eq document]
      exact .ok (minted.register (document.mint run.next).1 (some name)) _
    | absent => exact .error asking _
    | failed message => exact .error (asking.warn _) _
    | refused error => exact .error (asking.warn _) error

end Agree

/-! ## Calls in step -/

section

variable {ext} {setup : Setup} {schema : Node}

/-- A call in the small session goes together with one in the large, if the loader
cannot tell them apart and no name that is looked up is a further one. -/
def correspondence (hle : ext.small.next ≤ ext.large.next)
    (hanswers : ∀ requests name,
      setup.loader (ext.large.asked ++ requests) name =
        setup.loader (ext.small.asked ++ requests) name)
    (hunasked : ∀ way name, LooksUp setup ext.small schema way name →
      ¬ ext.IsFurther name) :
    Correspondence setup ext.small schema where
  rename := ext.rename
  injective := rename_injective hle
  runs := ext.Along
  rel g action run again run' := ext.Agree g (action.on run) (again.on run')
  pure a along := .ok along a
  throw error along := .error along error
  bind := .bind
  memo := .onMemo
  warn warning along := .ok (along.warn warning) ()
  newObject := .newObject
  mint := .mint
  load looks along := .load hanswers (hunasked _ _ looks) along

/-- The objects of the small session keep their identities. -/
theorem rename_eq_self {node : Node} (h : ∀ id ∈ node.allMarks, id < ext.small.next) :
    node.rename ext.rename = node :=
  Schema.rename_eq_self fun id hid => rename_of_lt (h id hid)

/-- The calls begin in step. -/
theorem along_begin (hwithin : ext.small.catalog.Within ext.large.catalog)
    (hcatalog : ∀ id ∈ ext.small.catalog.marks, id < ext.small.next)
    (hschema : ∀ id ∈ schema.allMarks, id < ext.small.next) :
    ext.Along (setup.begin ext.small schema).toRun
      (setup.begin ext.large schema).toRun where
  next_le := Nat.le_refl _
  next_eq := by
    show ext.large.next = ext.next ext.small.next
    rw [next, Nat.sub_self]
    rfl
  memo_eq := rfl
  warnings_eq := rfl
  asked := ⟨[], (List.append_nil _).symm, (List.append_nil _).symm⟩
  catalog name hname := by
    have hget : ext.large.catalog.get? name =
        (ext.small.catalog.get? name).map (Schema.rename ext.rename) := by
      cases hsmall : ext.small.catalog.get? name with
      | some document =>
        have hmarks := Catalog.mem_marks_of_get? hsmall
        rw [hwithin name document hsmall, Option.map_some,
          rename_eq_self fun id hid => hcatalog id (hmarks hid)]
      | none =>
        have hfree : ¬ ext.small.catalog.contains name = true := by
          simp [Catalog.contains, hsmall]
        have hlarge : ext.large.catalog.contains name = false :=
          Bool.eq_false_iff.mpr fun hcontains => hname ⟨hcontains, hfree⟩
        rwa [Catalog.contains, Option.isSome_eq_false_iff,
          Option.isNone_iff_eq_none] at hlarge
    have hregister := Catalog.get?_register_rename ext.rename hget schema none
    rwa [rename_eq_self hschema] at hregister

variable (ext setup) in
/-- The calls end in step, if the large session has handed out no fewer identities. -/
theorem dereference_eq (hle : ext.small.next ≤ ext.large.next)
    (hwithin : ext.small.catalog.Within ext.large.catalog)
    (hcatalog : ∀ id ∈ ext.small.catalog.marks, id < ext.small.next)
    (hschema : ∀ id ∈ schema.allMarks, id < ext.small.next)
    (hanswers : ∀ requests name,
      setup.loader (ext.large.asked ++ requests) name =
        setup.loader (ext.small.asked ++ requests) name)
    (hunasked : ∀ way name, LooksUp setup ext.small schema way name →
      ¬ ext.IsFurther name) :
    (dereference setup ext.large schema).result.map Report.erase =
      (dereference setup ext.small schema).result.map Report.erase ∧
    (dereference setup ext.large schema).warnings =
      (dereference setup ext.small schema).warnings ∧
    ∃ requests, (dereference setup ext.small schema).session.asked =
      ext.small.asked ++ requests ∧
      (dereference setup ext.large schema).session.asked = ext.large.asked ++
        requests := by
  have hbegin : ext.Along (setup.begin ext.small schema).toRun _ :=
    along_begin hwithin hcatalog hschema
  have hcall : ext.Agree (Schema.rename ext.rename) _ _ :=
    (correspondence hle hanswers hunasked).call hbegin
  dsimp only [correspondence] at hcall
  rw [rename_eq_self hschema] at hcall
  cases hsmall :
    (Node.deref setup setup.settings.maxDepth schema (.start schema none)).on
      (setup.begin ext.small schema).toRun with
  | mk outcome last =>
    cases hlarge :
      (Node.deref setup setup.settings.maxDepth schema (.start schema none)).on
        (setup.begin ext.large schema).toRun with
    | mk outcome' last' =>
      rw [hsmall, hlarge] at hcall
      rw [dereference_eq_of_on hsmall, dereference_eq_of_on hlarge]
      cases hcall with
      | ok along node =>
        refine ⟨?_, along.warnings_eq, along.asked⟩
        simp only [Except.map, Report.erase, Schema.erase_rename, along.memo_eq]
        rfl
      | error along error => exact ⟨rfl, along.warnings_eq, along.asked⟩

end

end Extension

/-! ## Calls -/

/-- Documents under names that a call does not look up cannot influence it. Let a
session have all the documents of a small one, and further ones only under names
that are never looked up when the call is made in the small session. Then the call
comes to the same result in both, an equal schema with the same circular references
and counts or the same failure, with the same warnings, and makes the same requests.
The loader may depend on the requests before, as long as it cannot tell the two
sessions apart. -/
theorem dereference_unrelated (setup : Setup) {small large : Session}
    {schemas others : List Node} {schema : Node} (hsmall : small.Holds schemas)
    (hschema : schema ∈ schemas) (hlarge : large.Holds others)
    (hschema' : schema ∈ others) (hwithin : small.catalog.Within large.catalog)
    (hanswers : ∀ requests name,
      setup.loader (large.asked ++ requests) name =
        setup.loader (small.asked ++ requests) name)
    (hunasked : ∀ way name, LooksUp setup small schema way name →
      large.catalog.contains name = true → small.catalog.contains name = true) :
    (dereference setup large schema).result.map Report.erase =
      (dereference setup small schema).result.map Report.erase ∧
    (dereference setup large schema).warnings =
      (dereference setup small schema).warnings ∧
    ∃ requests, (dereference setup small schema).session.asked =
      small.asked ++ requests ∧
      (dereference setup large schema).session.asked = large.asked ++ requests := by
  obtain ⟨layout, hlaid, hschemas⟩ := hsmall
  obtain ⟨layout', hlaid', hothers⟩ := hlarge
  have hmarks : ∀ id ∈ schema.allMarks, id < small.next := fun _ hid =>
    hlaid.next_eq ▸ (hschemas schema hschema).lt_of_mem_allMarks hid
  have hmarks' : ∀ id ∈ schema.allMarks, id < large.next := fun _ hid =>
    hlaid'.next_eq ▸ (hothers schema hschema').lt_of_mem_allMarks hid
  -- which identities are handed out makes no difference, so both may begin with a
  -- large one
  let later : Session := { large with next := max small.next large.next }
  obtain ⟨hresult, hwarnings, requests, hasked, hlater⟩ :=
    Extension.dereference_eq ⟨small, later⟩ setup (Nat.le_max_left _ _) hwithin
      (fun _ => hlaid.lt_of_mem_marks) hmarks hanswers
      fun way name looks hfurther => hfurther.2 (hunasked way name looks hfurther.1)
  obtain ⟨hresult', hwarnings', requests', hasked', hlater'⟩ :=
    Extension.dereference_eq ⟨large, later⟩ setup (Nat.le_max_right _ _) (.refl _)
      (fun _ => hlaid'.lt_of_mem_marks) hmarks' (fun _ _ => rfl)
      fun _ _ _ hfurther => hfurther.2 hfurther.1
  refine ⟨hresult'.symm.trans hresult, hwarnings'.symm.trans hwarnings,
    requests, hasked, ?_⟩
  obtain rfl : requests' = requests :=
    List.append_cancel_left (hlater'.symm.trans hlater)
  exact hasked'

/-- A schema that is nothing but a reference to another document. -/
def lone : Document := .object () [("$ref", .value (.str "urn:b"))]

/-- Serves, under all names, a document with another one inside. -/
def nestingLoader : Loader := .ofFunction fun _ => .document (.object ()
  [("properties",
    .map [("x", .schema (.object () [("$id", .value (.str "urn:z"))]))])])

/-- Where no reference is in flight none was followed. -/
theorem Way.lastFollowed?_of_inFlight {way : Way} (h : way.inFlight = []) :
    way.lastFollowed? = none := by
  induction way with
  | nil => rfl
  | cons passage rest ih =>
    cases passage with
    | entered id keywords => exact ih h
    | followed reference destination => cases h

/-- Where one hop is allowed, nothing is looked up behind the reference. -/
theorem looksUp_lone {session : Session} {id : NodeId} {way : Way} {name : String}
    (h : LooksUp ⟨{ maxDepth := 1 }, nestingLoader⟩ session
      (.object id [("$ref", .value (.str "urn:b"))]) way name) : name = "urn:b" := by
  obtain ⟨hops, scope, reference, run, uri, follows, huri, rfl⟩ := h
  have hnone : way.lastFollowed? = none := by
    have measures := follows.reached.measures
    have hhops : scope.depth + (hops + 1) = 1 := measures.hops
    have hdepth := measures.depth
    exact Way.lastFollowed?_of_inFlight (List.length_eq_zero_iff.mp (by omega))
  have has := follows.reached.has
    (P := fun _ base node => base = none ∧
      node = .object id [("$ref", .value (.str "urn:b"))])
    (by
      rintro _ _ _ _ ⟨rfl, ⟨⟩⟩ s hs
      cases hs)
    (fun _ => ⟨rfl, rfl⟩) (fun _ _ hlast => by rw [hnone] at hlast; cases hlast)
  cases has with
  | reference holds base_eq some =>
    obtain ⟨rfl, ⟨⟩⟩ := holds
    cases some
    cases huri
    rw [base_eq]
    decide +kernel

def word : Document := .object () [("type", .value (.str "string"))]

/-- A session that has a document under the name of the one inside. -/
def taken : Session :=
  let (node, session) := (Session.empty.mint lone).2.mint word
  { session with catalog := session.catalog.add "urn:z" node }

/-- A call with one hop. -/
def loneCall (session : Session) : Completed :=
  dereference ⟨{ maxDepth := 1 }, nestingLoader⟩ session (Session.empty.mint lone).1

/-- The document that is loaded has another one inside, which is filed in one
session only. -/
theorem dereference_unrelated_lone :
    (∀ way name, LooksUp ⟨{ maxDepth := 1 }, nestingLoader⟩
      (Session.empty.mint lone).2
        (Session.empty.mint lone).1 way name → name = "urn:b") ∧
      taken.catalog.contains "urn:b" = false ∧ taken.catalog.contains "urn:z" = true ∧
      (loneCall taken).result.isOk ∧
      (loneCall taken).result.map Report.erase =
        (loneCall (Session.empty.mint lone).2).result.map Report.erase ∧
      (loneCall taken).session.asked = ["urn:b"] ∧
      ((loneCall (Session.empty.mint lone).2).session.catalog.get?
        "urn:z" >>= Schema.keywords?).map
        Members.names = some ["$id"] ∧
      ((loneCall taken).session.catalog.get? "urn:z" >>= Schema.keywords?).map
        Members.names = some ["type"] := by
  have free : taken.catalog.contains "urn:b" = false := by decide +kernel
  have looks : ∀ way name, LooksUp ⟨{ maxDepth := 1 }, nestingLoader⟩
      (Session.empty.mint lone).2 (Session.empty.mint lone).1 way name →
        name = "urn:b" := fun _ _ => looksUp_lone
  have holds := Session.holds_empty.mint lone
  have holds' : taken.Holds _ := (holds.mint word).add List.mem_cons_self "urn:z"
  have unrelated := dereference_unrelated ⟨{ maxDepth := 1 }, nestingLoader⟩ holds
      List.mem_cons_self holds'
    (List.mem_cons_of_mem _ List.mem_cons_self) (Catalog.within_add _ _ _)
      (fun _ _ => rfl)
    (by
      intro way name hlooks hcontains
      rw [looks way name hlooks, free] at hcontains
      cases hcontains)
  obtain ⟨result, _, requests, asked, asked'⟩ := unrelated
  refine ⟨looks, free, by decide +kernel, by decide +kernel, result, ?_, by
    decide +kernel,
    by decide +kernel⟩
  have fresh : (Session.empty.mint lone).2.asked = [] := rfl
  have requested : (loneCall (Session.empty.mint lone).2).session.asked =
      ["urn:b"] := by decide +kernel
  obtain rfl : requests = ["urn:b"] := by rw [← requested]; exact asked.symm
  exact asked'

end SchemaDeref
