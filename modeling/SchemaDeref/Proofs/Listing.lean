import SchemaDeref.Proofs.History
import SchemaDeref.Proofs.Names
import SchemaDeref.Proofs.Registered

/-!
# What a catalog lists

A catalog lists every name once, in ascending order, and finds a document under a
URI just if it lists the URI without the mark of an empty fragment
(`Catalog.contains_iff`). That is a listed name itself unless it ends in such a
mark, as a name does that is left of two. Where no URI and no identifier has two
marks, every listed name is found (`Session.after_lists`).
-/

namespace SchemaDeref

variable {ι : Type}

/-! ## Names of a map -/

namespace Members

variable {α : Type}

theorem names_insert (name : String) (value : α) (members : Members α) :
    names (insert name value members) = Memo.insertKey name (names members) := by
  induction members with
  | nil => rfl
  | cons entry rest ih =>
    obtain ⟨n, old⟩ := entry
    rw [names] at ih
    simp only [insert, names, List.map_cons, Memo.insertKey]
    split
    · rfl
    · split
      · rename_i heq
        rw [heq, List.map_cons]
      · rw [List.map_cons, ih, names]

theorem isSome_get?_iff {name : String} {members : Members α} :
    (get? name members).isSome = true ↔ name ∈ names members := by
  induction members with
  | nil => simp [get?, names]
  | cons entry rest ih =>
    obtain ⟨n, value⟩ := entry
    rw [names] at ih
    simp only [get?, names, List.map_cons, List.mem_cons]
    split
    · rename_i heq
      simp [heq]
    · rename_i hne
      rw [ih]
      exact ⟨.inr, fun h => h.resolve_left (Ne.symm hne)⟩

end Members

/-! ## Listed names -/

namespace Catalog

/-- A document is found just if the name of its URI is listed. -/
theorem contains_iff {catalog : Catalog ι} {uri : String} :
    catalog.contains uri = true ↔ Uri.resourceName uri ∈ catalog.uris :=
  Members.isSome_get?_iff

theorem mem_uris_add {catalog : Catalog ι} {uri name : String} {schema : Schema ι} :
    name ∈ (catalog.add uri schema).uris ↔ name = Uri.resourceName uri ∨
      name ∈ catalog.uris := by
  rw [add]
  split
  · rename_i htaken
    refine ⟨.inr, ?_⟩
    rintro (rfl | hmem)
    · exact contains_iff.mp htaken
    · exact hmem
  · rw [uris, Members.names_insert]
    exact Memo.mem_insertKey

theorem pairwise_uris_add {catalog : Catalog ι} (h : catalog.uris.Pairwise (· < ·))
    (uri : String) (schema : Schema ι) :
    (catalog.add uri schema).uris.Pairwise (· < ·) := by
  rw [add]
  split
  · exact h
  · rw [uris, Members.names_insert]
    exact Memo.pairwise_insertKey h

theorem mem_uris_addAll {catalog : Catalog ι} {added : List (String × Schema ι)}
    {name : String} :
    name ∈ (catalog.addAll added).uris ↔
      name ∈ catalog.uris ∨ ∃ entry ∈ added, name = Uri.resourceName entry.1 := by
  induction added generalizing catalog with
  | nil => simp
  | cons entry rest ih =>
    rw [addAll_cons, ih, mem_uris_add]
    simp only [List.exists_mem_cons_iff]
    rw [or_comm (a := name = _), or_assoc]

theorem Adds.pairwise_uris {small large : Catalog ι} (h : small.Adds large)
    (hsmall : small.uris.Pairwise (· < ·)) : large.uris.Pairwise (· < ·) := by
  obtain ⟨added, rfl⟩ := h
  induction added generalizing small with
  | nil => exact hsmall
  | cons entry rest ih => exact ih (pairwise_uris_add hsmall entry.1 entry.2)

end Catalog

/-! ## Names without marks -/

/-- That every identifier in a document has at most one mark of a fragment. -/
def Schema.HasTidyIds (document : Schema ι) : Prop :=
  ∀ schema ∈ document.nodes, ∀ id ∈ schema.id?, Uri.HasOneMark id

instance (document : Schema ι) : Decidable document.HasTidyIds :=
  inferInstanceAs
    (Decidable (∀ schema ∈ document.nodes, ∀ id ∈ schema.id?, Uri.HasOneMark id))

/-- What is filed for a document has names that do not end in a mark. -/
theorem Schema.HasTidyIds.inventory_unmarked {document : Schema ι}
    (h : document.HasTidyIds) {name : String} (hname : Uri.Unmarked name)
    {entry : String × Schema ι} (hentry : entry ∈ document.inventory name) :
    Uri.Unmarked entry.1 := by
  have hnode : entry.2 ∈ document.nodes :=
    Schema.mem_nodes_of_named (document.inventory_eq_named name ▸ hentry)
  rcases List.mem_cons.mp hentry with rfl | hinside
  · exact hname
  · obtain ⟨occurrence, -, hoccurrence⟩ := List.mem_filterMap.mp hinside
    obtain ⟨id, hid, rfl⟩ := Option.map_eq_some_iff.mp hoccurrence
    exact Uri.joinName_unmarked _ (h occurrence.schema hnode id hid)

/-- That a call files documents under URIs, and with identifiers, of one mark at
most. -/
def Call.IsTidy : Call → Prop
  | .mint _ => True
  | .add uri _ => Uri.HasOneMark uri
  | .register schema uri => schema.HasTidyIds ∧ ∀ given ∈ uri, Uri.HasOneMark given
  | .dereference _ _ => False

namespace Session

/-- That no listed name ends in the mark of a fragment. -/
def ListsUnmarked (session : Session) : Prop :=
  ∀ name ∈ session.catalog.uris, Uri.Unmarked name

theorem ListsUnmarked.call {session : Session} (h : session.ListsUnmarked)
    {call : Call} (hcall : call.IsTidy) : (session.call call).ListsUnmarked := by
  cases call with
  | mint document => exact h
  | add uri schema =>
    intro name hname
    rcases Catalog.mem_uris_add.mp hname with rfl | hname
    · exact Uri.HasOneMark.resourceName_unmarked hcall
    · exact h name hname
  | register schema uri =>
    obtain ⟨hids, huri⟩ := hcall
    intro name hname
    simp only [Session.call, Catalog.register_eq] at hname
    split at hname
    · exact h name hname
    · rename_i filed hfiled
      obtain ⟨given, hgiven, rfl⟩ := Option.map_eq_some_iff.mp hfiled
      have hone : Uri.HasOneMark given := by
        cases uri with
        | none => exact hids schema schema.mem_nodes_self given hgiven
        | some explicit => exact huri given hgiven
      rcases Catalog.mem_uris_addAll.mp hname with hname | ⟨entry, hentry, rfl⟩
      · exact h name hname
      · rw [← Schema.inventory_eq_named] at hentry
        have hentry :=
          hids.inventory_unmarked (Uri.joinName_unmarked none hone) hentry
        rwa [hentry.resourceName_eq]
  | dereference setup schema => exact hcall.elim

theorem ListsUnmarked.after {session : Session} (h : session.ListsUnmarked)
    {calls : List Call} (hcalls : ∀ call ∈ calls, call.IsTidy) :
    (session.after calls).ListsUnmarked := by
  induction calls generalizing session with
  | nil => exact h
  | cons call rest ih =>
    obtain ⟨hcall, hrest⟩ := List.forall_mem_cons.mp hcalls
    exact ih (h.call hcall) hrest

/-- After any calls the listed names are strictly ascending, as many as there are
documents, and a URI finds a document just if it is listed without the mark of an
empty fragment. If every URI and every identifier that came in had one mark at most,
each listed name finds its document. -/
theorem after_lists (calls : List Call) :
    let catalog := (Session.empty.after calls).catalog
    catalog.uris.Pairwise (· < ·) ∧ catalog.uris.length = catalog.size ∧
    (∀ uri, catalog.contains uri = true ↔ Uri.resourceName uri ∈ catalog.uris) ∧
    (∀ uri, (∃ document, catalog.get? uri = some document) ↔
      Uri.resourceName uri ∈ catalog.uris) ∧
    ((∀ call ∈ calls, call.IsTidy) →
      ∀ uri ∈ catalog.uris, catalog.contains uri = true ∧ ∃ document, catalog.get?
        uri = some document) := by
  intro catalog
  have hfound : ∀ uri, (∃ document, catalog.get? uri = some document) ↔
      Uri.resourceName uri ∈ catalog.uris := fun uri =>
    Option.isSome_iff_exists.symm.trans Catalog.contains_iff
  refine ⟨(adds_after .empty calls).pairwise_uris .nil, List.length_map ..,
    fun uri => Catalog.contains_iff, hfound, fun hcalls uri hlisted => ?_⟩
  have hempty : Session.empty.ListsUnmarked :=
    fun _ hname => absurd hname List.not_mem_nil
  have hself := (hempty.after hcalls uri hlisted).resourceName_eq
  exact ⟨Catalog.contains_iff.mpr (hself.symm ▸ hlisted),
    (hfound uri).mpr (hself.symm ▸ hlisted)⟩

end Session

/-- A document with an identifier whose fragment is empty, and another inside. -/
def identified : Node :=
  .object 0 [("$id", .value (.str "urn:b#")),
    ("items", .schema (.object 1 [("$id", .value (.str "urn:c"))]))]

theorem Session.after_lists_identified :
    let calls := [Call.add "urn:a#" identified, .register identified none]
    let catalog := (Session.empty.after calls).catalog
    (∀ call ∈ calls, call.IsTidy) ∧ catalog.uris = ["urn:a", "urn:b", "urn:c"] ∧
    ∀ uri ∈ catalog.uris, catalog.contains uri = true ∧
      ∃ document, catalog.get? uri = some document := by
  intro calls catalog
  have hregister : (Call.register identified none).IsTidy :=
    ⟨by decide +kernel, fun _ hgiven => by cases hgiven⟩
  have htidy : ∀ call ∈ calls, call.IsTidy :=
    List.forall_mem_cons.mpr ⟨show Uri.HasOneMark "urn:a#" by decide,
      List.forall_mem_singleton.mpr hregister⟩
  exact ⟨htidy, by decide +kernel, (Session.after_lists calls).2.2.2.2 htidy⟩

/-- Of two marks at the end of a URI one stays in the name, and the name is listed
but not found. -/
theorem Session.after_lists_unfound :
    let catalog := (Session.empty.after [.add "a##" identified]).catalog
    "a#" ∈ catalog.uris ∧ catalog.contains "a#" = false ∧ catalog.get? "a#" = none :=
  ⟨List.mem_cons_self, rfl, rfl⟩

end SchemaDeref
