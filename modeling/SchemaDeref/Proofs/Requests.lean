import SchemaDeref.Proofs.Growth

/-!
# Requests

A loaded document is registered under its name, and a name is looked up in the
catalog before the loader is asked for it. So a loader that has answered with a
document is not asked for it again, in the same call or in a later one
(`asked_once`), unless the name is not the one the document is registered under.
That is the name as it reads by itself; one that stands for itself because it could
not be joined may be spelled otherwise, and such a document is loaded once for each
reference (`asked_again`).
-/

namespace SchemaDeref

/-! ## Names under which documents are found again -/

/-- That a document registered under a name is found by it. -/
def Uri.IsNormal (name : String) : Prop :=
  Uri.resourceName (Uri.joinName none name) = Uri.resourceName name

instance (name : String) : Decidable (Uri.IsNormal name) :=
  inferInstanceAs
    (Decidable (Uri.resourceName (Uri.joinName none name) = Uri.resourceName name))

namespace Catalog

variable {ι : Type}

theorem contains_register (catalog : Catalog ι) (document : Schema ι) {name : String}
    (h : Uri.IsNormal name) :
    (catalog.register document (some name)).contains name = true := by
  have hmem : (Uri.joinName none name, document) ∈
      document.named (Uri.joinName none name) :=
    List.mem_cons_self
  have hnamed := @contains_addAll ι catalog _ (Uri.joinName none name, document) hmem
  rw [contains, get?, h] at hnamed
  rw [contains, get?, register_eq]
  exact hnamed

end Catalog

/-! ## Worlds -/

/-- That the loader is not asked again for a document it has answered with: the
document is found, and no later request is for its name. -/
def World.AsksOnce (loader : Loader) (world : World) : Prop :=
  ∀ i name document, world.asked[i]? = some name →
    loader (world.asked.take i) name = .document document → Uri.IsNormal name →
      world.catalog.contains name = true ∧ ∀ j, i < j → world.asked[j]? ≠ some name

namespace World.AsksOnce

variable {loader : Loader} {world : World}

theorem within (h : world.AsksOnce loader) {catalog : Catalog Unit}
    (hwithin : world.catalog.Within catalog) :
    AsksOnce loader ⟨catalog, world.asked⟩ := by
  intro i name document hi hanswer hnormal
  obtain ⟨hcontains, hlater⟩ := h i name document hi hanswer hnormal
  exact ⟨hwithin.contains hcontains, hlater⟩

/-- One more request, for a name the catalog does not have. -/
theorem ask (h : world.AsksOnce loader) {name : String}
    (hfree : world.catalog.get? name = none) {catalog : Catalog Unit}
    (hwithin : world.catalog.Within catalog)
    (hanswered : ∀ document, loader world.asked name = .document document →
      Uri.IsNormal name →
      catalog.contains name = true) :
    AsksOnce loader ⟨catalog, world.asked ++ [name]⟩ := by
  intro i other document hi hanswer hnormal
  dsimp only at hi hanswer ⊢
  rcases Nat.lt_trichotomy i world.asked.length with hlt | rfl | hgt
  · rw [List.getElem?_append_left hlt] at hi
    rw [List.take_append_of_le_length (Nat.le_of_lt hlt)] at hanswer
    obtain ⟨hcontains, hlater⟩ := h i other document hi hanswer hnormal
    refine ⟨hwithin.contains hcontains, fun j hij hj => ?_⟩
    rcases Nat.lt_or_ge j world.asked.length with hlt' | hge
    · rw [List.getElem?_append_left hlt'] at hj
      exact hlater j hij hj
    · -- the new request would be for a name that is found
      rw [List.getElem?_append_right hge, List.getElem?_singleton] at hj
      split at hj
      · obtain rfl := Option.some.inj hj
        simp [Catalog.contains, hfree] at hcontains
      · cases hj
  · rw [List.getElem?_concat_length] at hi
    obtain rfl := Option.some.inj hi
    rw [List.take_left] at hanswer
    refine ⟨hanswered document hanswer hnormal, fun j hij hj => ?_⟩
    rw [List.getElem?_eq_none
      (by rw [List.length_append, List.length_singleton]; omega)] at hj
    cases hj
  · rw [List.getElem?_eq_none
      (by rw [List.length_append, List.length_singleton]; omega)] at hi
    cases hi

theorem fetch (h : world.AsksOnce loader) (name target : String) :
    AsksOnce loader (world.fetch loader name target).2 := by
  simp only [World.fetch]
  split
  · exact h
  · rename_i hfree
    split
    · rename_i document hdocument
      exact h.ask hfree (Catalog.within_register _ _ _)
        fun _ _ hnormal => Catalog.contains_register _ _ hnormal
    all_goals
      rename_i hreply
      refine h.ask hfree (.refl _) fun document hdocument => ?_
      rw [hreply] at hdocument
      cases hdocument

theorem destination (h : world.AsksOnce loader) (view : View)
    (reference : Reference) :
    AsksOnce loader (view.destination loader reference world).2 := by
  simp only [View.destination]
  split
  · exact h
  · rename_i uri huri
    have hfetch := h.fetch (Uri.joinName view.base uri) reference.target
    split
    all_goals
      rename_i heq
      rw [heq] at hfetch
      exact hfetch

end World.AsksOnce

/-! ## Sessions -/

/-- The catalog and the requests of a session, without identities. -/
def Session.world (session : Session) : World :=
  ⟨session.catalog.erase, session.asked⟩

/-- A session, with the schemas at hand, that comes to be with a loader: it begins
without requests, and then documents are read, schemas are registered, and calls are
made, with any settings. -/
inductive Session.Arises (loader : Loader) : Session → List Node → Prop
  | fresh {session schemas} (holds : session.Holds schemas)
    (asked : session.asked = []) :
    Arises loader session schemas
  | minted {session schemas} (before : Arises loader session schemas)
    (document : Document) :
    Arises loader (session.mint document).2 ((session.mint document).1 :: schemas)
  | added {session schemas schema} (before : Arises loader session schemas)
    (mem : schema ∈ schemas)
    (uri : String) :
    Arises loader { session with catalog := session.catalog.add uri schema } schemas
  | registered {session schemas schema} (before : Arises loader session schemas)
    (mem : schema ∈ schemas) (uri : Option String) :
    Arises loader { session with catalog := session.catalog.register schema uri }
      schemas
  | called {session schemas schema} (before : Arises loader session schemas)
    (mem : schema ∈ schemas)
    (settings : Settings) :
    Arises loader (dereference ⟨settings, loader⟩ session schema).session schemas
  | returned {session schemas schema report} (before : Arises loader session schemas)
    (mem : schema ∈ schemas) (settings : Settings)
    (ok : (dereference ⟨settings, loader⟩ session schema).result = .ok report) :
    Arises loader (dereference ⟨settings, loader⟩ session schema).session
      (report.schema :: schemas)

namespace Session.Arises

variable {loader : Loader} {session : Session} {schemas : List Node}

theorem holds (h : session.Arises loader schemas) : session.Holds schemas := by
  induction h with
  | fresh holds _ => exact holds
  | minted _ document ih => exact ih.mint document
  | added _ mem uri ih => exact ih.add mem uri
  | registered _ mem uri ih => exact ih.register mem uri
  | called _ mem settings ih => exact ih.dereference ⟨settings, loader⟩ mem
  | returned _ mem settings ok ih =>
    obtain ⟨result, after, reach, walk, _, hnode⟩ :=
      exists_callWalk ⟨settings, loader⟩ ih mem
    rw [walk.dereference_eq] at ok ⊢
    cases result with
    | error error => cases ok
    | ok node =>
      cases ok
      exact hnode node rfl

end Session.Arises

/-- A call asks for no document that was loaded before, and for none twice. -/
theorem World.AsksOnce.dereference {loader : Loader} (settings : Settings)
    {session : Session} {schemas : List Node} {schema : Node}
    (h : session.Holds schemas) (hschema : schema ∈ schemas)
    (honce : session.world.AsksOnce loader) :
    (dereference ⟨settings, loader⟩
      session schema).session.world.AsksOnce loader := by
  obtain ⟨result, after, reach, walk, _⟩ :=
    exists_callWalk ⟨settings, loader⟩ h hschema
  rw [walk.dereference_eq]
  have hbegin : (Setup.begin ⟨settings, loader⟩ session schema).toRun.world.AsksOnce
      loader := by
    refine honce.within ?_
    show session.world.catalog.Within (session.catalog.register schema none).erase
    rw [Catalog.register_erase]
    exact Catalog.within_register _ _ _
  exact Walk.worlds (P := fun before after => before.AsksOnce loader →
    after.AsksOnce loader)
    (fun _ => id) (fun _ _ _ hab hbc => hbc ∘ hab)
    (fun view reference _ hworld => hworld.destination view reference) walk hbegin

theorem Session.Arises.asksOnce {loader : Loader} {session : Session}
    {schemas : List Node} (h : session.Arises loader schemas) :
    session.world.AsksOnce loader := by
  induction h with
  | fresh _ asked =>
    intro i name document hi
    simp [Session.world, asked] at hi
  | minted _ _ ih => exact ih
  | added _ _ uri ih =>
    refine ih.within ?_
    rw [Catalog.add_erase]
    exact Catalog.within_add _ _ _
  | registered _ _ uri ih =>
    refine ih.within ?_
    rw [Catalog.register_erase]
    exact Catalog.within_register _ _ _
  | called before mem settings ih => exact ih.dereference settings before.holds mem
  | returned before mem settings ok ih =>
    exact ih.dereference settings before.holds mem

/-- Once the loader has answered with a document, no later request is for its name,
in the same call or in a later one, if documents registered under the name are found
by it. -/
theorem asked_once {loader : Loader} {session : Session} {schemas : List Node}
    (h : session.Arises loader schemas) {i j : Nat} {name : String}
    {document : Document} (hi : session.asked[i]? = some name)
    (hanswer : loader (session.asked.take i) name = .document document)
    (hnormal : Uri.IsNormal name) (hij : i < j) : session.asked[j]? ≠ some name :=
  (h.asksOnce i name document hi hanswer hnormal).2 j hij

/-- A document with two definitions. -/
def twoNames : Document :=
  .object () [("$defs",
    .map [("first", .schema (.object () [("type", .value (.str "string"))])),
      ("last", .schema (.object () [("type", .value (.str "string"))]))])]

/-- Serves the document with two definitions under all names. -/
def namesLoader : Loader := .ofFunction fun _ => .document twoNames

/-- The session after two calls for one document. -/
def calledTwice (document : Document) : Session :=
  let (schema, session) := Session.empty.mint document
  (dereference ⟨{}, namesLoader⟩
    (dereference ⟨{}, namesLoader⟩ session schema).session schema).session

theorem arises_calledTwice (document : Document) :
    (calledTwice document).Arises namesLoader [(Session.empty.mint document).1] :=
  .called (.called (.fresh (Session.holds_empty.mint document) rfl)
    List.mem_cons_self {})
    List.mem_cons_self {}

/-- Two references to one document, and one to another. -/
def person : Document :=
  .object () [("properties", .map [
    ("a", .schema (.object () [("$ref", .value (.str "urn:b#/$defs/first"))])),
    ("b", .schema (.object () [("$ref", .value (.str "urn:b#/$defs/last"))])),
    ("c", .schema (.object () [("$ref", .value (.str "urn:c"))]))])]

/-- Two calls ask for each document once. -/
theorem asked_once_person :
    (calledTwice person).Arises namesLoader [(Session.empty.mint person).1] ∧
      (calledTwice person).asked = ["urn:b", "urn:c"] ∧
      namesLoader ((calledTwice person).asked.take 0) "urn:b" = .document twoNames ∧
      Uri.IsNormal "urn:b" ∧ (calledTwice person).asked[1]? ≠ some "urn:b" := by
  have asked : (calledTwice person).asked = ["urn:b", "urn:c"] := by decide +kernel
  have normal : Uri.IsNormal "urn:b" := by decide +kernel
  have first : (calledTwice person).asked[0]? = some "urn:b" := by rw [asked]; rfl
  exact ⟨arises_calledTwice person, asked, rfl, normal,
    asked_once (arises_calledTwice person) first rfl normal Nat.zero_lt_one⟩

/-- Two references that cannot be joined with the identifier around them, and so
stand for themselves. -/
def unjoinable : Document :=
  .object () [("$id", .value (.str "user")), ("properties", .map [
    ("a", .schema (.object () [("$ref", .value (.str "URN:b#/$defs/first"))])),
    ("b", .schema (.object () [("$ref", .value (.str "URN:b#/$defs/last"))]))])]

/-- The document is registered under the name in small letters and is not found. -/
theorem asked_again :
    (calledTwice unjoinable).Arises namesLoader [(Session.empty.mint unjoinable).1] ∧
      namesLoader ((calledTwice unjoinable).asked.take 0) "URN:b" =
        .document twoNames ∧
      (calledTwice unjoinable).asked = ["URN:b", "URN:b", "URN:b", "URN:b"] :=
  ⟨arises_calledTwice unjoinable, rfl, by decide +kernel⟩

end SchemaDeref
