import SchemaDeref.Proofs.Views

/-!
# The objects in a value

All objects in a JSON value, at any depth, whether they are read as schemas, maps or
data. Whatever a pointer or an anchor ends at, and whatever has to be read anew
there, its objects are objects of the document. So what holds of every object of a
value holds wherever a call gets to in it.
-/

namespace SchemaDeref

variable {ι : Type}

/-! ## Collecting -/

mutual

/-- The members of all objects in a value. -/
def Json.objects : Json → List (Members Json)
  | .arr items => objectsInItems items
  | .obj members => members :: objectsInMembers members
  | _ => []

def Json.objectsInItems : List Json → List (Members Json)
  | [] => []
  | item :: rest => item.objects ++ objectsInItems rest

def Json.objectsInMembers : List (String × Json) → List (Members Json)
  | [] => []
  | (_, value) :: rest => value.objects ++ objectsInMembers rest

end

theorem Json.objects_subset_items {items : List Json} {value : Json}
    (h : value ∈ items) :
    value.objects ⊆ objectsInItems items := by
  induction items with
  | nil => simp at h
  | cons item rest ih =>
    rw [objectsInItems]
    rcases List.mem_cons.mp h with rfl | h
    · exact List.subset_append_left _ _
    · exact List.subset_append_of_subset_right _ (ih h)

theorem Json.objects_subset_members {members : Members Json} {name : String}
    {value : Json} (h : (name, value) ∈ members) :
    value.objects ⊆ objectsInMembers members := by
  induction members with
  | nil => simp at h
  | cons entry rest ih =>
    rw [objectsInMembers]
    rcases List.mem_cons.mp h with rfl | h
    · exact List.subset_append_left _ _
    · exact List.subset_append_of_subset_right _ (ih h)

/-! ## Reading and writing -/

mutual

/-- What is read from a value is written as that value. -/
theorem Keyword.toJson_read (form : Form) :
    ∀ value : Json, (Keyword.read form value).toJson = value
  | .null => by simp [Keyword.read, Keyword.toJson]
  | .bool b => by
    rw [Keyword.read]
    split <;> simp [Keyword.toJson, Schema.toJson]
  | .num n => by simp [Keyword.read, Keyword.toJson]
  | .str s => by simp [Keyword.read, Keyword.toJson]
  | .arr items => by
    rw [Keyword.read]
    split
    · rw [Keyword.toJson, itemsToJson_readItems items]
    · rw [Keyword.toJson]
  | .obj members => by
    rw [Keyword.read]
    split
    · rw [Keyword.toJson, entriesToJson_readEntries members]
    · split
      · rw [Keyword.toJson, Schema.toJson, entriesToJson_readKeywords members]
      · rw [Keyword.toJson]

theorem itemsToJson_readItems :
    ∀ items : List Json, itemsToJson (readItems items) = items
  | [] => rfl
  | item :: rest => by
    rw [readItems, itemsToJson, Keyword.toJson_read _ item,
      itemsToJson_readItems rest]

theorem entriesToJson_readEntries :
    ∀ members : List (String × Json), entriesToJson (readEntries members) = members
  | [] => rfl
  | (name, value) :: rest => by
    rw [readEntries, entriesToJson, Keyword.toJson_read _ value,
      entriesToJson_readEntries rest]

theorem entriesToJson_readKeywords :
    ∀ members : List (String × Json), entriesToJson (readKeywords members) = members
  | [] => rfl
  | (name, value) :: rest => by
    rw [readKeywords, entriesToJson, Keyword.toJson_read _ value,
      entriesToJson_readKeywords rest]

end

theorem Schema.toJson_of_ofJson? {value : Json} {document : Document}
    (h : Schema.ofJson? value = some document) : document.toJson = value := by
  cases value with
  | bool b =>
    cases h
    simp [Schema.toJson]
  | obj members =>
    cases h
    rw [Schema.toJson, entriesToJson_readKeywords members]
  | null | num | str | arr => cases h

theorem Members.get?_toJson (name : String) (keywords : Keywords ι) :
    Members.get? name (entriesToJson keywords) = (Members.get? name keywords).map
      Keyword.toJson := by
  induction keywords with
  | nil => rfl
  | cons entry rest ih =>
    obtain ⟨n, keyword⟩ := entry
    simp only [entriesToJson, Members.get?]
    split
    · rfl
    · exact ih

/-- A string keyword is a string member. -/
theorem Keywords.get?_of_string? {keywords : Keywords ι} {name text : String}
    (h : string? keywords name = some text) :
    Members.get? name (entriesToJson keywords) = some (.str text) := by
  simp only [string?] at h
  split at h
  · rename_i s hget
    cases h
    rw [Members.get?_toJson, hget, Option.map_some, Keyword.toJson]
  · cases h

/-! ## Ways into a document -/

mutual

theorem Schema.objects_of_mem_nodes {s : Schema ι} :
    ∀ {schema : Schema ι}, s ∈ schema.nodes → s.toJson.objects ⊆ schema.toJson.objects
  | .bool _, h => by
    rw [Schema.nodes, List.mem_singleton] at h
    rw [h]
    exact List.Subset.refl _
  | .object mark keywords, h => by
    rw [Schema.nodes, List.mem_cons] at h
    rcases h with rfl | h
    · exact List.Subset.refl _
    · rw [Schema.toJson.eq_2, Json.objects]
      exact List.subset_cons_of_subset _ (objectsInMembers_of_mem_nodes h)

theorem Keyword.objects_of_mem_nodes {s : Schema ι} :
    ∀ {keyword : Keyword ι}, s ∈ keyword.nodes → s.toJson.objects ⊆
      keyword.toJson.objects
  | .schema t, h => by
    rw [Keyword.nodes] at h
    rw [Keyword.toJson]
    exact Schema.objects_of_mem_nodes h
  | .list items, h => by
    rw [Keyword.nodes] at h
    rw [Keyword.toJson, Json.objects]
    exact objectsInItems_of_mem_nodes h
  | .map entries, h => by
    rw [Keyword.nodes] at h
    rw [Keyword.toJson, Json.objects]
    exact List.subset_cons_of_subset _ (objectsInMembers_of_mem_nodes h)
  | .value _, h => by simp [Keyword.nodes] at h

theorem objectsInItems_of_mem_nodes {s : Schema ι} :
    ∀ {items : List (Keyword ι)}, s ∈ itemNodes items →
      s.toJson.objects ⊆ Json.objectsInItems (itemsToJson items)
  | [], h => by simp [itemNodes] at h
  | item :: rest, h => by
    rw [itemNodes, List.mem_append] at h
    rw [itemsToJson, Json.objectsInItems]
    rcases h with h | h
    · exact List.subset_append_of_subset_left _ (Keyword.objects_of_mem_nodes h)
    · exact List.subset_append_of_subset_right _ (objectsInItems_of_mem_nodes h)

theorem objectsInMembers_of_mem_nodes {s : Schema ι} :
    ∀ {entries : List (String × Keyword ι)}, s ∈ entryNodes entries →
      s.toJson.objects ⊆ Json.objectsInMembers (entriesToJson entries)
  | [], h => by simp [entryNodes] at h
  | (name, entry) :: rest, h => by
    rw [entryNodes, List.mem_append] at h
    rw [entriesToJson, Json.objectsInMembers]
    rcases h with h | h
    · exact List.subset_append_of_subset_left _ (Keyword.objects_of_mem_nodes h)
    · exact List.subset_append_of_subset_right _ (objectsInMembers_of_mem_nodes h)

end

namespace Keyword

theorem mem_itemsToJson {items : List (Keyword ι)} {item : Keyword ι}
    (h : item ∈ items) :
    item.toJson ∈ itemsToJson items := by
  induction items with
  | nil => simp at h
  | cons first rest ih =>
    rw [itemsToJson]
    rcases List.mem_cons.mp h with rfl | h
    · exact List.mem_cons_self
    · exact List.mem_cons_of_mem _ (ih h)

theorem objects_of_get? {entries : Keywords ι} {name : String} {keyword : Keyword ι}
    (h : Members.get? name entries = some keyword) :
    keyword.toJson.objects ⊆ Json.objectsInMembers (entriesToJson entries) := by
  have hget : Members.get? name (entriesToJson entries) = some keyword.toJson := by
    rw [Members.get?_toJson, h, Option.map_some]
  exact Json.objects_subset_members (Members.mem_of_get? hget)

/-- A step leads to no object that was not there. -/
theorem objects_step {token : String} {place next : Keyword ι}
    (h : place.step token = .ok next) :
    next.toJson.objects ⊆ place.toJson.objects := by
  cases place with
  | schema s =>
    cases s with
    | bool b => simp [step] at h
    | object mark keywords =>
      simp only [step] at h
      cases hget : Members.get? token keywords with
      | none => simp [hget, orMissing] at h
      | some keyword =>
        rw [hget] at h
        cases h
        rw [Keyword.toJson.eq_1, Schema.toJson, Json.objects]
        exact List.subset_cons_of_subset _ (objects_of_get? hget)
  | list items =>
    simp only [step, item?] at h
    cases hi : Pointer.index? token with
    | none => simp [hi, orMissing] at h
    | some i =>
      cases hitem : items[i]? with
      | none => simp [hi, hitem, orMissing] at h
      | some item =>
        simp only [hi, Option.bind_eq_bind, Option.bind_some, hitem, orMissing] at h
        cases h
        rw [Keyword.toJson.eq_2, Json.objects]
        exact Json.objects_subset_items (mem_itemsToJson (List.mem_of_getElem? hitem))
  | map entries =>
    simp only [step] at h
    cases hget : Members.get? token entries with
    | none => simp [hget, orMissing] at h
    | some keyword =>
      rw [hget] at h
      cases h
      rw [Keyword.toJson.eq_3, Json.objects]
      exact List.subset_cons_of_subset _ (objects_of_get? hget)
  | value data =>
    cases data with
    | obj members =>
      simp only [step] at h
      cases hget : Members.get? token members with
      | none => simp [hget, orMissing] at h
      | some value =>
        simp only [hget, orMissing, Option.map_some] at h
        cases h
        rw [Keyword.toJson, Keyword.toJson, Json.objects]
        exact List.subset_cons_of_subset _
          (Json.objects_subset_members (Members.mem_of_get? hget))
    | arr items =>
      simp only [step, item?] at h
      cases hi : Pointer.index? token with
      | none => simp [hi, orMissing] at h
      | some i =>
        cases hitem : items[i]? with
        | none => simp [hi, hitem, orMissing] at h
        | some item =>
          simp only [hi, Option.bind_eq_bind, Option.bind_some, hitem, orMissing,
            Option.map_some] at h
          cases h
          rw [Keyword.toJson, Keyword.toJson, Json.objects]
          exact Json.objects_subset_items (List.mem_of_getElem? hitem)
    | null | bool | num | str => simp [step] at h

theorem objects_walk {pointer : String} {tokens : List String}
    {place last : Keyword ι} (h : walk pointer tokens place = .ok last) :
    last.toJson.objects ⊆ place.toJson.objects := by
  induction tokens generalizing place with
  | nil =>
    cases h
    exact List.Subset.refl _
  | cons token rest ih =>
    simp only [walk] at h
    split at h
    · rename_i next hstep
      exact List.Subset.trans (ih h) (objects_step hstep)
    · cases h
    · cases h

theorem objects_land {pointer : String} {place : Keyword ι} {landing : Landing ι}
    (h : place.land pointer = .ok landing) :
    landing.erase.toJson.objects ⊆ place.toJson.objects := by
  have hread : ∀ document : Document, Schema.ofJson? place.toJson = some document →
      document.toJson.objects ⊆ place.toJson.objects := by
    intro document hdocument
    rw [Schema.toJson_of_ofJson? hdocument]
    exact List.Subset.refl _
  cases place with
  | schema s =>
    cases h
    rw [Landing.erase, s.toJson_erase, Keyword.toJson]
    exact List.Subset.refl _
  | list | map | value =>
    simp only [land] at h
    split at h
    · rename_i document hdocument
      cases h
      exact hread document hdocument
    · cases h

end Keyword

/-- A pointer leads to no object that is not in the document. -/
theorem Schema.objects_of_at {document place : Document} {pointer : String}
    (h : document.at pointer = .ok place) :
    place.toJson.objects ⊆ document.toJson.objects := by
  have hfollow : (document.follow pointer).map Landing.erase = .ok place := by
    rw [← document.at_erase pointer, document.erase_document, h]
  simp only [Schema.follow] at hfollow
  split at hfollow
  · simp only [Except.map, Except.ok.injEq] at hfollow
    rw [← hfollow, Landing.erase, document.erase_document]
    exact List.Subset.refl _
  · cases hwalk : Keyword.walk pointer (Pointer.tokens pointer)
      (.schema document) with
    | error error =>
      rw [hwalk] at hfollow
      cases hfollow
    | ok last =>
      rw [hwalk] at hfollow
      have hobjects := Keyword.objects_walk hwalk
      rw [Keyword.toJson.eq_1] at hobjects
      cases hland : last.land pointer with
      | error error =>
        simp [hland, Except.map, bind, Except.bind] at hfollow
      | ok landing =>
        simp only [hland, Except.map, bind, Except.bind, Except.ok.injEq] at hfollow
        rw [← hfollow]
        exact List.Subset.trans (Keyword.objects_land hland) hobjects

/-- A fragment leads to no object that is not in the document. -/
theorem Document.objects_of_locate {document place : Document}
    {fragment : Option String} (h : document.locate fragment = .ok place) :
    place.toJson.objects ⊆ document.toJson.objects := by
  simp only [Document.locate] at h
  split at h
  · cases h
    exact List.Subset.refl _
  · split at h
    · cases h
      exact List.Subset.refl _
    · exact Schema.objects_of_at h
    · split at h
      · rename_i s hfind
        cases h
        exact Schema.objects_of_mem_nodes
          (document.preorder_subset_nodes (List.mem_of_find?_eq_some hfind))
      · exact Schema.objects_of_at h

end SchemaDeref
