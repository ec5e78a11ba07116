import SchemaDeref.Proofs.Correspondences

/-!
# The catalog over a history of calls

Nothing leaves a catalog. Every step of a call adds to it or leaves it as it is,
also a step that fails (`Correspondence.adding`), and so does a whole call
(`dereference_adds`). Over any history of additions, registrations and calls a
document stays under its name, as the very same node (`Session.after_keeps_documents`).
-/

namespace SchemaDeref

variable {ι : Type}

/-! ## Catalogs with more in them -/

namespace Catalog

/-- One catalog is the other with documents added. -/
def Adds (small large : Catalog ι) : Prop := ∃ added, large = small.addAll added

theorem Adds.refl (catalog : Catalog ι) : catalog.Adds catalog := ⟨[], rfl⟩

theorem Adds.trans {a b c : Catalog ι} (hab : a.Adds b) (hbc : b.Adds c) :
    a.Adds c := by
  obtain ⟨first, rfl⟩ := hab
  obtain ⟨second, rfl⟩ := hbc
  exact ⟨first ++ second, (addAll_append a first second).symm⟩

theorem adds_add (catalog : Catalog ι) (uri : String) (schema : Schema ι) :
    catalog.Adds (catalog.add uri schema) := ⟨[(uri, schema)], rfl⟩

theorem adds_register (catalog : Catalog ι) (schema : Schema ι)
    (uri : Option String) :
    catalog.Adds (catalog.register schema uri) := by
  rw [register_eq]
  split
  · exact .refl catalog
  · exact ⟨_, rfl⟩

theorem Adds.within {small large : Catalog ι} (h : small.Adds large) :
    small.Within large := by
  obtain ⟨added, rfl⟩ := h
  exact within_addAll small added

theorem length_insert (name : String) (value : Schema ι)
    (members : Members (Schema ι)) :
    members.length ≤ (Members.insert name value members).length := by
  induction members with
  | nil => simp [Members.insert]
  | cons entry rest ih =>
    simp only [Members.insert]
    split
    · simp
    · split
      · simp
      · simpa using ih

theorem size_add (catalog : Catalog ι) (uri : String) (schema : Schema ι) :
    catalog.size ≤ (catalog.add uri schema).size := by
  simp only [add]
  split
  · exact Nat.le_refl _
  · exact length_insert _ schema catalog.entries

theorem Adds.size {small large : Catalog ι} (h : small.Adds large) :
    small.size ≤ large.size := by
  obtain ⟨added, rfl⟩ := h
  induction added generalizing small with
  | nil => exact Nat.le_refl _
  | cons resource rest ih => exact Nat.le_trans (size_add small _ _) ih

end Catalog

/-! ## Steps that only add -/

theorem Action.adds_load (loader : Loader) (name target : String) (run : Run) :
    run.catalog.Adds ((Action.load loader name target).on run).2.catalog := by
  rw [on_load]
  cases run.catalog.get? name with
  | some document => exact .refl run.catalog
  | none =>
    dsimp only
    cases loader run.asked name with
    | document document => exact run.catalog.adds_register _ (some name)
    | absent | failed | refused => exact .refl run.catalog

/-- What every step of a call does to the catalog, also one that fails: it adds to
it, or leaves it as it is. The second call is of no account here. -/
def Correspondence.adding (setup : Setup) (session : Session) (schema : Node) :
    Correspondence setup session schema where
  rename := id
  injective := Function.injective_id
  runs _ _ := True
  rel _ action run _ _ := run.catalog.Adds (action.on run).2.catalog
  pure {_ _ _ run _} _ _ := .refl run.catalog
  throw {_ _ _ run _} _ _ := .refl run.catalog
  bind {_ _ _ _ _ _ first _ _ _ run _} hfirst hnext := by
    rw [Action.on_bind]
    cases hon : first.on run with
    | mk outcome after =>
      rw [hon] at hfirst
      cases outcome with
      | error error => exact hfirst
      | ok a => exact hfirst.trans (hnext a after after hon trivial)
  memo {_ _ _ _ _ run _} _ _ := .refl run.catalog
  warn {run _} _ _ := .refl run.catalog
  newObject {run _} _ _ := .refl run.catalog
  mint {run _} _ _ := .refl run.catalog
  load {_ name target run _} _ _ := Action.adds_load setup.loader name target run

/-- A call only adds to the catalog, whether it succeeds or not. -/
theorem dereference_adds (setup : Setup) (session : Session) (schema : Node) :
    session.catalog.Adds (dereference setup session schema).session.catalog := by
  have hbegin : session.catalog.Adds (setup.begin session schema).catalog :=
    session.catalog.adds_register schema none
  have hruns : (Correspondence.adding setup session schema).runs
      (setup.begin session schema).toRun (setup.begin session schema).toRun := trivial
  have hcall := Correspondence.call _ hruns
  cases hon :
    (Node.deref setup setup.settings.maxDepth schema (.start schema none)).on
      (setup.begin session schema).toRun with
  | mk outcome last =>
    dsimp only [Correspondence.adding] at hcall
    rw [hon] at hcall
    rw [dereference_eq_of_on hon]
    exact hbegin.trans hcall

/-! ## Histories -/

/-- What the owners of a session can do with it; several of them may use it in turn,
each with a setup of its own. -/
inductive Call where
  | mint (document : Document)
  | add (uri : String) (schema : Node)
  | register (schema : Node) (uri : Option String)
  | dereference (setup : Setup) (schema : Node)

namespace Session

/-- The session that a call leaves behind. -/
def call (session : Session) : Call → Session
  | .mint document => (session.mint document).2
  | .add uri schema => { session with catalog := session.catalog.add uri schema }
  | .register schema uri =>
    { session with catalog := session.catalog.register schema uri }
  | .dereference setup schema =>
    (SchemaDeref.dereference setup session schema).session

/-- The session after some calls, one after the other. -/
def after (session : Session) (calls : List Call) : Session :=
  calls.foldl call session

theorem after_append (session : Session) (calls later : List Call) :
    session.after (calls ++ later) = (session.after calls).after later :=
  List.foldl_append ..

theorem adds_call (session : Session) (call : Call) :
    session.catalog.Adds (session.call call).catalog := by
  cases call with
  | mint document => exact .refl _
  | add uri schema => exact session.catalog.adds_add uri schema
  | register schema uri => exact session.catalog.adds_register schema uri
  | dereference setup schema => exact dereference_adds setup session schema

theorem adds_after (session : Session) (calls : List Call) :
    session.catalog.Adds (session.after calls).catalog := by
  induction calls generalizing session with
  | nil => exact .refl _
  | cons call rest ih => exact (session.adds_call call).trans (ih (session.call call))

/-- At every point of a history: a document that is found under a name is found
there after every later call, as the same node, and the catalog is no smaller than
it was. Calls of dereferencing count that fail, too. -/
theorem after_keeps_documents (session : Session) (calls later : List Call) :
    (∀ uri document, (session.after calls).catalog.get? uri = some document →
      (session.after (calls ++ later)).catalog.get? uri = some document) ∧
    (session.after calls).catalog.size ≤
      (session.after (calls ++ later)).catalog.size := by
  have hadds := (session.after calls).adds_after later
  rw [after_append]
  exact ⟨hadds.within, hadds.size⟩

end Session

end SchemaDeref
