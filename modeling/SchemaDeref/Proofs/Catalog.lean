import SchemaDeref.Proofs.Erasure

/-!
# What registering does to a catalog

A catalog only grows: a name that is taken keeps its document. What it holds comes
from what was in it and from the registered document, and it does not depend on marks.
-/

namespace SchemaDeref

variable {ι : Type}

/-! ## Sorted maps -/

namespace Members

variable {α β : Type}

theorem get?_insert (name other : String) (value : α) (members : Members α) :
    get? other (insert name value members) =
      if name = other then some value else get? other members := by
  induction members with
  | nil => simp [insert, get?]
  | cons entry rest ih =>
    obtain ⟨n, old⟩ := entry
    simp only [insert]
    split
    · simp [get?]
    · split
      · rename_i h
        subst h
        by_cases hn : n = other <;> simp [get?, hn]
      · rename_i h
        by_cases hn : n = other
        · subst hn
          have : ¬ name = n := fun h' => h h'.symm
          simp [get?, this]
        · simp [get?, hn, ih]

theorem mem_insert {name : String} {value : α} {members : Members α}
    {entry : String × α} (h : entry ∈ insert name value members) :
    entry = (name, value) ∨ entry ∈ members := by
  induction members with
  | nil => simpa [insert] using h
  | cons first rest ih =>
    obtain ⟨n, old⟩ := first
    simp only [insert] at h
    split at h
    · simpa using h
    · split at h
      · rcases List.mem_cons.mp h with h | h
        · exact .inl h
        · exact .inr (List.mem_cons_of_mem _ h)
      · rcases List.mem_cons.mp h with h | h
        · exact .inr (h ▸ List.mem_cons_self)
        · rcases ih h with h | h
          · exact .inl h
          · exact .inr (List.mem_cons_of_mem _ h)

theorem mem_of_get? {name : String} {value : α} {members : Members α}
    (h : get? name members = some value) : (name, value) ∈ members := by
  induction members with
  | nil => simp [get?] at h
  | cons entry rest ih =>
    obtain ⟨n, old⟩ := entry
    simp only [get?] at h
    split at h
    · rename_i hn
      cases h
      simp [hn]
    · exact List.mem_cons_of_mem _ (ih h)

/-- Where no name occurs twice, every member is the one of its name. -/
theorem get?_of_mem {members : Members α} (h : (names members).Nodup)
    {name : String} {value : α} (hvalue : (name, value) ∈ members) :
    get? name members = some value := by
  induction members with
  | nil => cases hvalue
  | cons first rest ih =>
    obtain ⟨n, v⟩ := first
    rw [names, List.map_cons] at h
    obtain ⟨hn, hrest⟩ := List.nodup_cons.mp h
    rw [get?]
    rcases List.mem_cons.mp hvalue with heq | hvalue
    · cases heq
      rw [if_pos rfl]
    · have hne : n ≠ name := by
        rintro rfl
        exact hn (List.mem_map.mpr ⟨_, hvalue, rfl⟩)
      rw [if_neg hne, ih hrest hvalue]

theorem get?_map (f : α → β) (name : String) (members : Members α) :
    get? name (members.map fun (n, value) => (n, f value)) =
      (get? name members).map f := by
  induction members with
  | nil => rfl
  | cons entry rest ih =>
    obtain ⟨n, value⟩ := entry
    simp only [List.map_cons, get?]
    split
    · rfl
    · exact ih

theorem insert_map (f : α → β) (name : String) (value : α) (members : Members α) :
    (insert name value members).map (fun (n, value) => (n, f value)) =
      insert name (f value) (members.map fun (n, value) => (n, f value)) := by
  induction members with
  | nil => rfl
  | cons entry rest ih =>
    obtain ⟨n, old⟩ := entry
    simp only [insert, List.map_cons]
    split
    · rfl
    · split
      · rfl
      · simp [ih]

theorem mem_overwrite {lower upper : Members α} {entry : String × α}
    (h : entry ∈ overwrite lower upper) : entry ∈ lower ∨ entry ∈ upper := by
  induction upper generalizing lower with
  | nil => exact .inl h
  | cons first rest ih =>
    rcases ih h with h | h
    · rcases mem_insert h with rfl | h
      · exact .inr List.mem_cons_self
      · exact .inl h
    · exact .inr (List.mem_cons_of_mem _ h)

theorem get?_overwrite {lower upper : Members α} {name : String}
    (h : ∀ entry ∈ upper, entry.1 ≠ name) :
    get? name (overwrite lower upper) = get? name lower := by
  induction upper generalizing lower with
  | nil => rfl
  | cons first rest ih =>
    obtain ⟨hfirst, hrest⟩ := List.forall_mem_cons.mp h
    have hstep : get? name (overwrite lower (first :: rest)) =
        get? name (insert first.1 first.2 lower) := ih hrest
    rw [hstep, get?_insert, if_neg hfirst]

/-- Where no name occurs twice, the upper members are laid over the lower ones as
they are. -/
theorem get?_overwrite_of_mem {lower upper : Members α} {name : String} {value : α}
    (hnames : (names upper).Nodup) (h : get? name upper = some value) :
    get? name (overwrite lower upper) = some value := by
  induction upper generalizing lower with
  | nil => cases h
  | cons first rest ih =>
    obtain ⟨key, old⟩ := first
    rw [names, List.map_cons, List.nodup_cons] at hnames
    rw [get?] at h
    show get? name (overwrite (insert key old lower) rest) = some value
    split at h
    · rename_i hkey
      cases h
      have hrest : ∀ entry ∈ rest, entry.1 ≠ name := by
        rintro entry hentry rfl
        exact hnames.1 (List.mem_map.mpr ⟨entry, hentry, hkey.symm⟩)
      rw [get?_overwrite hrest, get?_insert, if_pos hkey]
    · exact ih hnames.2 h

end Members

/-! ## Growing -/

namespace Catalog

/-- Every name of one catalog has the same document in the other. -/
def Within (small large : Catalog ι) : Prop :=
  ∀ uri document, small.get? uri = some document → large.get? uri = some document

theorem Within.refl (catalog : Catalog ι) : catalog.Within catalog := fun _ _ h => h

theorem Within.trans {a b c : Catalog ι} (hab : a.Within b)
    (hbc : b.Within c) : a.Within c :=
  fun uri document h => hbc uri document (hab uri document h)

theorem within_add (catalog : Catalog ι) (uri : String) (schema : Schema ι) :
    catalog.Within (catalog.add uri schema) := by
  intro other document h
  simp only [add]
  split
  · exact h
  · rename_i hfree
    simp only [get?, Members.get?_insert]
    split
    · rename_i heq
      simp only [contains, get?, heq] at hfree
      simp only [get?] at h
      simp [h] at hfree
    · exact h

/-- An added document is found unless the name was taken. -/
theorem get?_add {catalog : Catalog ι} {uri : String}
    (h : catalog.contains uri = false) (document : Schema ι) :
    (catalog.add uri document).get? uri = some document := by
  rw [add, h, if_neg Bool.false_ne_true, get?, Members.get?_insert, if_pos rfl]

theorem get?_add_other {catalog : Catalog ι} {uri other : String}
    (hne : Uri.resourceName other ≠ Uri.resourceName uri) (document : Schema ι) :
    (catalog.add uri document).get? other = catalog.get? other := by
  rw [add]
  split
  · rfl
  · rw [get?, Members.get?_insert, if_neg hne.symm, get?]

/-- Adds documents one after the other. -/
def addAll (catalog : Catalog ι) (resources : List (String × Schema ι)) : Catalog ι :=
  resources.foldl (fun catalog (uri, schema) => catalog.add uri schema) catalog

@[simp] theorem addAll_nil (catalog : Catalog ι) : catalog.addAll [] = catalog := rfl

@[simp] theorem addAll_cons (catalog : Catalog ι) (uri : String) (schema : Schema ι)
    (rest : List (String × Schema ι)) :
    catalog.addAll ((uri, schema) :: rest) = (catalog.add uri schema).addAll rest :=
  rfl

theorem addAll_append (catalog : Catalog ι) (xs ys : List (String × Schema ι)) :
    catalog.addAll (xs ++ ys) = (catalog.addAll xs).addAll ys := List.foldl_append ..

theorem within_addAll (catalog : Catalog ι) (resources : List (String × Schema ι)) :
    catalog.Within (catalog.addAll resources) := by
  induction resources generalizing catalog with
  | nil => exact .refl catalog
  | cons resource rest ih => exact (within_add catalog _ _).trans (ih _)

theorem Within.contains {small large : Catalog ι} (h : small.Within large)
    {uri : String} (hcontains : small.contains uri = true) :
    large.contains uri = true := by
  obtain ⟨document, hget⟩ := Option.isSome_iff_exists.mp hcontains
  exact Option.isSome_iff_exists.mpr ⟨document, h uri document hget⟩

theorem contains_add (catalog : Catalog ι) (uri : String) (schema : Schema ι) :
    (catalog.add uri schema).contains uri = true := by
  simp only [add]
  split
  · assumption
  · simp [contains, get?, Members.get?_insert]

theorem contains_addAll {catalog : Catalog ι} {resources : List (String × Schema ι)}
    {resource : String × Schema ι} (h : resource ∈ resources) :
    (catalog.addAll resources).contains resource.1 = true := by
  induction resources generalizing catalog with
  | nil => simp at h
  | cons first rest ih =>
    rcases List.mem_cons.mp h with rfl | h
    · exact (within_addAll _ rest).contains (contains_add catalog _ _)
    · exact ih h

/-- What an addition leaves in a catalog was there or was added. -/
theorem mem_add {catalog : Catalog ι} {uri : String} {schema : Schema ι}
    {entry : String × Schema ι} (h : entry ∈ (catalog.add uri schema).entries) :
    entry.2 = schema ∨ entry ∈ catalog.entries := by
  simp only [add] at h
  split at h
  · exact .inr h
  · rcases Members.mem_insert h with rfl | h
    · exact .inl rfl
    · exact .inr h

theorem mem_addAll {catalog : Catalog ι} {resources : List (String × Schema ι)}
    {entry : String × Schema ι} (h : entry ∈ (catalog.addAll resources).entries) :
    (∃ resource ∈ resources, entry.2 = resource.2) ∨ entry ∈ catalog.entries := by
  induction resources generalizing catalog with
  | nil => exact .inr h
  | cons resource rest ih =>
    rcases ih h with ⟨r, hr, heq⟩ | h
    · exact .inl ⟨r, List.mem_cons_of_mem _ hr, heq⟩
    · rcases mem_add h with heq | h
      · exact .inl ⟨resource, List.mem_cons_self, heq⟩
      · exact .inr h

theorem mem_of_get? {catalog : Catalog ι} {uri : String} {document : Schema ι}
    (h : catalog.get? uri = some document) :
    (Uri.resourceName uri, document) ∈ catalog.entries := Members.mem_of_get? h

end Catalog

/-! ## The resources of a document -/

mutual

/-- The schemas with identifiers in a schema that stands under the base `parent`,
with their names, in the order they are written. -/
def Schema.resources (parent : String) : Schema ι → List (String × Schema ι)
  | .bool _ => []
  | .object mark keywords =>
    match Keywords.id? keywords with
    | some id =>
      let name := Uri.joinName (some parent) id
      (name, .object mark keywords) :: resourcesIn name keywords
    | none => resourcesIn parent keywords

def resourcesIn (parent : String) :
    List (String × Keyword ι) → List (String × Schema ι)
  | [] => []
  | (name, keyword) :: rest =>
    (if Shape.ofKeyword name = .value then [] else keyword.resources parent) ++
      resourcesIn parent rest

def Keyword.resources (parent : String) : Keyword ι → List (String × Schema ι)
  | .schema s => s.resources parent
  | .list items => itemResources parent items
  | .map entries => entryResources parent entries
  | .value _ => []

def itemResources (parent : String) : List (Keyword ι) → List (String × Schema ι)
  | [] => []
  | item :: rest => item.resources parent ++ itemResources parent rest

def entryResources (parent : String) :
    List (String × Keyword ι) → List (String × Schema ι)
  | [] => []
  | (_, entry) :: rest => entry.resources parent ++ entryResources parent rest

end

mutual

theorem Schema.enroll_eq (parent : String) :
    ∀ (schema : Schema ι) (catalog : Catalog ι),
    schema.enroll parent catalog = catalog.addAll (schema.resources parent)
  | .bool _, catalog => by simp [Schema.enroll, Schema.resources]
  | .object mark keywords, catalog => by
    simp only [Schema.enroll, Schema.resources]
    cases Keywords.id? keywords with
    | none => exact enrollKeywords_eq parent keywords catalog
    | some id => exact enrollKeywords_eq _ keywords _

theorem enrollKeywords_eq (parent : String) :
    ∀ (keywords : List (String × Keyword ι)) (catalog : Catalog ι),
      enrollKeywords parent keywords catalog =
        catalog.addAll (resourcesIn parent keywords)
  | [], _ => by simp [enrollKeywords, resourcesIn]
  | (name, keyword) :: rest, catalog => by
    simp only [enrollKeywords, resourcesIn, Catalog.addAll_append]
    rw [enrollKeywords_eq parent rest]
    split
    · rfl
    · rw [keyword.enroll_eq parent]

theorem Keyword.enroll_eq (parent : String) :
    ∀ (keyword : Keyword ι) (catalog : Catalog ι),
    keyword.enroll parent catalog = catalog.addAll (keyword.resources parent)
  | .schema s, catalog => by
    simp only [Keyword.enroll, Keyword.resources, s.enroll_eq parent catalog]
  | .list items, catalog => by
    simp only [Keyword.enroll, Keyword.resources, enrollItems_eq parent items catalog]
  | .map entries, catalog => by
    simp only [Keyword.enroll, Keyword.resources,
      enrollEntries_eq parent entries catalog]
  | .value _, _ => by simp [Keyword.enroll, Keyword.resources]

theorem enrollItems_eq (parent : String) :
    ∀ (items : List (Keyword ι)) (catalog : Catalog ι),
    enrollItems parent items catalog = catalog.addAll (itemResources parent items)
  | [], _ => by simp [enrollItems, itemResources]
  | item :: rest, catalog => by
    simp only [enrollItems, itemResources, Catalog.addAll_append,
      item.enroll_eq parent, enrollItems_eq parent rest]

theorem enrollEntries_eq (parent : String) :
    ∀ (entries : List (String × Keyword ι)) (catalog : Catalog ι),
      enrollEntries parent entries catalog =
        catalog.addAll (entryResources parent entries)
  | [], _ => by simp [enrollEntries, entryResources]
  | (_, entry) :: rest, catalog => by
    simp only [enrollEntries, entryResources, Catalog.addAll_append,
      entry.enroll_eq parent, enrollEntries_eq parent rest]

end

/-- A document and the schemas inside it that have identifiers, with their names. -/
def Schema.named (schema : Schema ι) (name : String) : List (String × Schema ι) :=
  (name, schema) :: resourcesIn name (schema.keywords?.getD [])

namespace Catalog

theorem register_eq (catalog : Catalog ι) (schema : Schema ι) (uri : Option String) :
    catalog.register schema uri =
      match nameFor? schema uri with
      | none => catalog
      | some name => catalog.addAll (schema.named name) := by
  simp only [register, Schema.named]
  cases nameFor? schema uri with
  | none => rfl
  | some name => exact enrollKeywords_eq name _ _

theorem within_register (catalog : Catalog ι) (schema : Schema ι)
    (uri : Option String) :
    catalog.Within (catalog.register schema uri) := by
  rw [register_eq]
  split
  · exact .refl catalog
  · exact within_addAll catalog _

/-- A document registered under a URI is found under what the URI reads as. -/
theorem get?_register {catalog : Catalog ι} {uri : String}
    (h : catalog.contains (Uri.joinName none uri) = false) (document : Schema ι) :
    (catalog.register document (some uri)).get? (Uri.joinName none uri) =
      some document := by
  rw [register_eq]
  exact within_addAll (catalog.add (Uri.joinName none uri) document) _ _ document
    (get?_add h document)

theorem addAll_eq_self {catalog : Catalog ι} {resources : List (String × Schema ι)}
    (h : ∀ resource ∈ resources, catalog.contains resource.1 = true) :
    catalog.addAll resources = catalog := by
  induction resources with
  | nil => rfl
  | cons first rest ih =>
    have hfirst : catalog.add first.1 first.2 = catalog := by
      rw [add, if_pos (h first List.mem_cons_self)]
    rw [addAll_cons, hfirst]
    exact ih fun resource hresource => h resource (List.mem_cons_of_mem _ hresource)

/-- What a catalog has registered it does not register again. -/
theorem register_eq_self {small large : Catalog ι} {document : Schema ι}
    {uri : Option String} (h : (small.register document uri).Within large) :
    large.register document uri = large := by
  rw [register_eq] at h ⊢
  split
  · rfl
  · rename_i name hname
    rw [hname] at h
    exact addAll_eq_self fun resource hresource =>
      h.contains (contains_addAll hresource)

end Catalog

/-! ## Catalogs with other marks -/

section

variable {κ : Type} (f : ι → κ)

mutual

theorem Schema.resources_rename (parent : String) : ∀ schema : Schema ι,
    (schema.rename f).resources parent = (schema.resources parent).map fun (u, s) =>
      (u, s.rename f)
  | .bool _ => by simp [Schema.resources]
  | .object mark keywords => by
    simp only [Schema.rename, Schema.resources, Keywords.id?_rename]
    cases Keywords.id? keywords with
    | none => exact resourcesIn_rename parent keywords
    | some id => simp [resourcesIn_rename _ keywords]

theorem resourcesIn_rename (parent : String) : ∀ keywords : List (String × Keyword ι),
    resourcesIn parent (renameEntries f keywords) =
      (resourcesIn parent keywords).map fun (u, s) => (u, s.rename f)
  | [] => by simp [renameEntries, resourcesIn]
  | (name, keyword) :: rest => by
    simp only [renameEntries, resourcesIn, resourcesIn_rename parent rest,
      List.map_append]
    split
    · rfl
    · rw [keyword.resources_rename parent]

theorem Keyword.resources_rename (parent : String) : ∀ keyword : Keyword ι,
    (keyword.rename f).resources parent =
      (keyword.resources parent).map fun (u, s) => (u, s.rename f)
  | .schema s => by
    simp only [Keyword.rename, Keyword.resources, s.resources_rename parent]
  | .list items => by
    simp only [Keyword.rename, Keyword.resources, itemResources_rename parent items]
  | .map entries => by
    simp only [Keyword.rename, Keyword.resources,
      entryResources_rename parent entries]
  | .value _ => by simp [Keyword.rename, Keyword.resources]

theorem itemResources_rename (parent : String) : ∀ items : List (Keyword ι),
    itemResources parent (renameItems f items) =
      (itemResources parent items).map fun (u, s) => (u, s.rename f)
  | [] => by simp [renameItems, itemResources]
  | item :: rest => by
    simp only [renameItems, itemResources, item.resources_rename parent,
      itemResources_rename parent rest, List.map_append]

theorem entryResources_rename (parent : String) :
    ∀ entries : List (String × Keyword ι),
    entryResources parent (renameEntries f entries) =
      (entryResources parent entries).map fun (u, s) => (u, s.rename f)
  | [] => by simp [renameEntries, entryResources]
  | (_, entry) :: rest => by
    simp only [renameEntries, entryResources, entry.resources_rename parent,
      entryResources_rename parent rest, List.map_append]

end

theorem Schema.named_rename (schema : Schema ι) (name : String) :
    (schema.rename f).named name = (schema.named name).map fun (u, s) =>
      (u, s.rename f) := by
  cases schema <;>
    simp [Schema.named, Schema.keywords?, resourcesIn_rename, resourcesIn]

theorem Catalog.nameFor?_rename (schema : Schema ι) (uri : Option String) :
    nameFor? (schema.rename f) uri = nameFor? schema uri := by
  cases schema <;> simp [nameFor?, Schema.keywords?]

end

namespace Catalog

/-- Forgets the marks of all documents. -/
def erase (catalog : Catalog ι) : Catalog Unit :=
  ⟨catalog.entries.map fun (name, schema) => (name, schema.erase)⟩

theorem get?_erase (catalog : Catalog ι) (uri : String) :
    catalog.erase.get? uri = (catalog.get? uri).map Schema.erase :=
  Members.get?_map ..

theorem add_erase (catalog : Catalog ι) (uri : String) (schema : Schema ι) :
    (catalog.add uri schema).erase = catalog.erase.add uri schema.erase := by
  have hc : catalog.erase.contains uri = catalog.contains uri := by
    simp only [contains, get?_erase, Option.isSome_map]
  rw [add, add, hc]
  split
  · rfl
  · simp only [erase, Members.insert_map]

theorem addAll_erase (catalog : Catalog ι) (resources : List (String × Schema ι)) :
    (catalog.addAll resources).erase =
      catalog.erase.addAll (resources.map fun (u, s) => (u, s.erase)) := by
  induction resources generalizing catalog with
  | nil => rfl
  | cons resource rest ih =>
    obtain ⟨uri, schema⟩ := resource
    simp only [addAll_cons, List.map_cons, ih, add_erase]

/-- Registering does not look at marks. -/
theorem register_erase (catalog : Catalog ι) (schema : Schema ι)
    (uri : Option String) :
    (catalog.register schema uri).erase =
      catalog.erase.register schema.erase uri := by
  rw [register_eq, register_eq, schema.erase_eq_rename, nameFor?_rename]
  split
  · rfl
  · simp only [addAll_erase, Schema.named_rename, Schema.erase_eq_rename]

end Catalog

end SchemaDeref
