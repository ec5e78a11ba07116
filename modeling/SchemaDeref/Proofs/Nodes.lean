import SchemaDeref.Proofs.Catalog

/-!
# The schemas in a schema

All schemas inside a schema, at any depth, in the order they are written. Whatever
leads from a schema into it ends at one of them: its applicators, its subschemas,
its resources, a pointer, an anchor.
-/

namespace SchemaDeref

variable {ι : Type}

/-! ## Collecting -/

mutual

/-- A schema and all schemas inside it, in the order they are written. -/
def Schema.nodes : Schema ι → List (Schema ι)
  | .bool value => [.bool value]
  | .object mark keywords => .object mark keywords :: entryNodes keywords

def Keyword.nodes : Keyword ι → List (Schema ι)
  | .schema s => s.nodes
  | .list items => itemNodes items
  | .map entries => entryNodes entries
  | .value _ => []

def itemNodes : List (Keyword ι) → List (Schema ι)
  | [] => []
  | item :: rest => item.nodes ++ itemNodes rest

def entryNodes : List (String × Keyword ι) → List (Schema ι)
  | [] => []
  | (_, entry) :: rest => entry.nodes ++ entryNodes rest

end

theorem mem_itemNodes {s : Schema ι} {items : List (Keyword ι)} :
    s ∈ itemNodes items ↔ ∃ item ∈ items, s ∈ item.nodes := by
  induction items with
  | nil => simp [itemNodes]
  | cons item rest ih => simp [itemNodes, ih]

theorem mem_entryNodes {s : Schema ι} {entries : List (String × Keyword ι)} :
    s ∈ entryNodes entries ↔ ∃ entry ∈ entries, s ∈ entry.2.nodes := by
  induction entries with
  | nil => simp [entryNodes]
  | cons entry rest ih => simp [entryNodes, ih]

theorem Schema.mem_nodes_self (schema : Schema ι) : schema ∈ schema.nodes := by
  cases schema <;> simp [Schema.nodes]

mutual

theorem Schema.mem_nodes_trans {s : Schema ι} :
    ∀ {schema t : Schema ι}, t ∈ schema.nodes → s ∈ t.nodes → s ∈ schema.nodes
  | .bool _, t, ht, hs => by
    rw [Schema.nodes, List.mem_singleton] at ht
    exact ht ▸ hs
  | .object mark keywords, t, ht, hs => by
    rw [Schema.nodes, List.mem_cons] at ht
    rcases ht with rfl | ht
    · exact hs
    · rw [Schema.nodes]
      exact List.mem_cons_of_mem _ (mem_entryNodes_trans ht hs)

theorem Keyword.mem_nodes_trans {s : Schema ι} :
    ∀ {keyword : Keyword ι} {t : Schema ι}, t ∈ keyword.nodes → s ∈ t.nodes →
      s ∈ keyword.nodes
  | .schema schema, t, ht, hs => by
    rw [Keyword.nodes] at ht ⊢
    exact Schema.mem_nodes_trans ht hs
  | .list items, t, ht, hs => by
    rw [Keyword.nodes] at ht ⊢
    exact mem_itemNodes_trans ht hs
  | .map entries, t, ht, hs => by
    rw [Keyword.nodes] at ht ⊢
    exact mem_entryNodes_trans ht hs
  | .value _, t, ht, _ => by simp [Keyword.nodes] at ht

theorem mem_itemNodes_trans {s : Schema ι} :
    ∀ {items : List (Keyword ι)} {t : Schema ι}, t ∈ itemNodes items → s ∈ t.nodes →
      s ∈ itemNodes items
  | [], t, ht, _ => by simp [itemNodes] at ht
  | item :: rest, t, ht, hs => by
    rw [itemNodes, List.mem_append] at ht ⊢
    exact ht.imp (Keyword.mem_nodes_trans · hs) (mem_itemNodes_trans · hs)

theorem mem_entryNodes_trans {s : Schema ι} :
    ∀ {entries : List (String × Keyword ι)} {t : Schema ι}, t ∈ entryNodes entries →
      s ∈ t.nodes →
      s ∈ entryNodes entries
  | [], t, ht, _ => by simp [entryNodes] at ht
  | (_, entry) :: rest, t, ht, hs => by
    rw [entryNodes, List.mem_append] at ht ⊢
    exact ht.imp (Keyword.mem_nodes_trans · hs) (mem_entryNodes_trans · hs)

end

mutual

theorem Schema.count_le_of_mem_nodes {s : Schema ι} :
    ∀ {schema : Schema ι}, s ∈ schema.nodes → s.count ≤ schema.count
  | .bool _, h => by
    rw [Schema.nodes, List.mem_singleton] at h
    exact Nat.le_of_eq (congrArg Schema.count h)
  | .object mark keywords, h => by
    rw [Schema.nodes, List.mem_cons] at h
    rcases h with rfl | h
    · exact Nat.le_refl _
    · rw [Schema.count]
      have := countEntries_le_of_mem_nodes h
      omega

theorem Keyword.count_le_of_mem_nodes {s : Schema ι} :
    ∀ {keyword : Keyword ι}, s ∈ keyword.nodes → s.count ≤ keyword.count
  | .schema t, h => by
    rw [Keyword.nodes] at h
    rw [Keyword.count]
    exact Schema.count_le_of_mem_nodes h
  | .list items, h => by
    rw [Keyword.nodes] at h
    rw [Keyword.count]
    exact countItems_le_of_mem_nodes h
  | .map entries, h => by
    rw [Keyword.nodes] at h
    rw [Keyword.count]
    exact countEntries_le_of_mem_nodes h
  | .value _, h => by simp [Keyword.nodes] at h

theorem countItems_le_of_mem_nodes {s : Schema ι} :
    ∀ {items : List (Keyword ι)}, s ∈ itemNodes items → s.count ≤ countItems items
  | [], h => by simp [itemNodes] at h
  | item :: rest, h => by
    rw [itemNodes, List.mem_append] at h
    rw [countItems]
    rcases h with h | h
    · have := Keyword.count_le_of_mem_nodes h
      omega
    · have := countItems_le_of_mem_nodes h
      omega

theorem countEntries_le_of_mem_nodes {s : Schema ι} :
    ∀ {entries : List (String × Keyword ι)}, s ∈ entryNodes entries →
      s.count ≤ countEntries entries
  | [], h => by simp [entryNodes] at h
  | (_, entry) :: rest, h => by
    rw [entryNodes, List.mem_append] at h
    rw [countEntries]
    rcases h with h | h
    · have := Keyword.count_le_of_mem_nodes h
      omega
    · have := countEntries_le_of_mem_nodes h
      omega

end

/-- No object stands inside itself. -/
theorem Schema.not_mem_entryNodes_self (mark : ι) (keywords : Keywords ι) :
    Schema.object mark keywords ∉ entryNodes keywords := by
  intro h
  have := countEntries_le_of_mem_nodes h
  rw [Schema.count] at this
  omega

/-! ## Ways to a schema inside another -/

mutual

theorem Keyword.mem_nodes_of_subschema (name pointer : String) :
    ∀ {keyword : Keyword ι} {sub : Subschema ι}, sub ∈ keyword.subschemas
      name pointer →
      sub.schema ∈ keyword.nodes
  | .schema s, sub, h => by
    rw [Keyword.subschemas, List.mem_singleton] at h
    rw [h, Keyword.nodes]
    exact s.mem_nodes_self
  | .list items, sub, h => by
    rw [Keyword.subschemas] at h
    rw [Keyword.nodes]
    exact mem_itemNodes_of_subschema name pointer 0 h
  | .map entries, sub, h => by
    rw [Keyword.subschemas] at h
    rw [Keyword.nodes]
    exact mem_entryNodes_of_subschema name pointer h
  | .value _, sub, h => by simp [Keyword.subschemas] at h

theorem mem_itemNodes_of_subschema (name pointer : String) (start : Nat) :
    ∀ {items : List (Keyword ι)} {sub : Subschema ι},
      sub ∈ subschemasOfItems name pointer start items → sub.schema ∈ itemNodes items
  | [], sub, h => by simp [subschemasOfItems] at h
  | item :: rest, sub, h => by
    rw [subschemasOfItems, List.mem_append] at h
    rw [itemNodes, List.mem_append]
    exact h.imp (Keyword.mem_nodes_of_subschema _ _)
      (mem_itemNodes_of_subschema name pointer _)

theorem mem_entryNodes_of_subschema (name pointer : String) :
    ∀ {entries : List (String × Keyword ι)} {sub : Subschema ι},
      sub ∈ subschemasOfEntries name pointer entries → sub.schema ∈ entryNodes entries
  | [], sub, h => by simp [subschemasOfEntries] at h
  | (key, entry) :: rest, sub, h => by
    rw [subschemasOfEntries, List.mem_append] at h
    rw [entryNodes, List.mem_append]
    exact h.imp (Keyword.mem_nodes_of_subschema _ _)
      (mem_entryNodes_of_subschema name pointer)

end

theorem Keywords.mem_nodes_of_subschema {keywords : Keywords ι} {sub : Subschema ι}
    (h : sub ∈ subschemas keywords) : sub.schema ∈ entryNodes keywords := by
  obtain ⟨⟨name, keyword⟩, hmem, hsub⟩ := List.mem_flatMap.mp h
  refine mem_entryNodes.mpr ⟨_, hmem, ?_⟩
  dsimp only at hsub
  split at hsub
  · simp at hsub
  · exact Keyword.mem_nodes_of_subschema _ _ hsub

mutual

theorem Keyword.applied_eq_map (name pointer : String) :
    ∀ keyword : Keyword ι, keyword.applied = (keyword.subschemas name pointer).map
      Subschema.schema
  | .schema s => rfl
  | .list items => by
    rw [Keyword.applied, Keyword.subschemas, appliedItems_eq_map name pointer 0 items]
  | .map entries => by
    rw [Keyword.applied, Keyword.subschemas,
      appliedEntries_eq_map name pointer entries]
  | .value _ => rfl

theorem appliedItems_eq_map (name pointer : String) (start : Nat) :
    ∀ items : List (Keyword ι),
      appliedItems items = (subschemasOfItems name pointer start items).map
        Subschema.schema
  | [] => rfl
  | item :: rest => by
    rw [appliedItems, subschemasOfItems, List.map_append,
      ← item.applied_eq_map name (pointer ++ "/" ++ toString start),
      ← appliedItems_eq_map name pointer (start + 1) rest]

theorem appliedEntries_eq_map (name pointer : String) :
    ∀ entries : List (String × Keyword ι),
      appliedEntries entries = (subschemasOfEntries name pointer entries).map
        Subschema.schema
  | [] => rfl
  | (key, entry) :: rest => by
    rw [appliedEntries, subschemasOfEntries, List.map_append,
      ← entry.applied_eq_map name (pointer ++ "/" ++ Pointer.escape key),
      ← appliedEntries_eq_map name pointer rest]

end

/-- What an object applies is among its subschemas. -/
theorem Keywords.exists_subschema_of_applied {keywords : Keywords ι} {s : Schema ι}
    (h : s ∈ Keywords.applied keywords) :
    ∃ sub ∈ Keywords.subschemas keywords, sub.schema = s := by
  induction keywords with
  | nil => simp [Keywords.applied] at h
  | cons entry rest ih =>
    obtain ⟨name, keyword⟩ := entry
    rw [Keywords.subschemas, List.flatMap_cons]
    rw [Keywords.applied, List.mem_append] at h
    rcases h with h | h
    · split at h
      · rename_i happlicator
        have hshape : Shape.ofKeyword name ≠ .value := by
          intro hvalue
          rw [hvalue] at happlicator
          cases happlicator
        rw [keyword.applied_eq_map name (Pointer.escape name)] at h
        obtain ⟨sub, hsub, heq⟩ := List.mem_map.mp h
        refine ⟨sub, List.mem_append_left _ ?_, heq⟩
        simp only [if_neg hshape]
        exact hsub
      · cases h
    · obtain ⟨sub, hsub, heq⟩ := ih h
      exact ⟨sub, List.mem_append_right _ hsub, heq⟩

theorem Keywords.applied_subset_nodes (keywords : Keywords ι) :
    applied keywords ⊆ entryNodes keywords := by
  intro s hs
  obtain ⟨sub, hsub, rfl⟩ := exists_subschema_of_applied hs
  exact mem_nodes_of_subschema hsub

mutual

theorem Schema.mem_nodes_of_resource (parent : String) :
    ∀ {schema : Schema ι} {resource : String × Schema ι}, resource ∈
      schema.resources parent →
      resource.2 ∈ schema.nodes
  | .bool _, resource, h => by simp [Schema.resources] at h
  | .object mark keywords, resource, h => by
    rw [Schema.nodes, List.mem_cons]
    rw [Schema.resources] at h
    split at h
    · rcases List.mem_cons.mp h with rfl | h
      · exact .inl rfl
      · exact .inr (mem_entryNodes_of_resource _ h)
    · exact .inr (mem_entryNodes_of_resource _ h)

theorem mem_entryNodes_of_resource (parent : String) :
    ∀ {keywords : List (String × Keyword ι)} {resource : String × Schema ι},
      resource ∈ resourcesIn parent keywords → resource.2 ∈ entryNodes keywords
  | [], resource, h => by simp [resourcesIn] at h
  | (name, keyword) :: rest, resource, h => by
    rw [resourcesIn, List.mem_append] at h
    rw [entryNodes, List.mem_append]
    refine h.imp (fun h => ?_) (mem_entryNodes_of_resource parent)
    split at h
    · simp at h
    · exact Keyword.mem_nodes_of_resource parent h

theorem Keyword.mem_nodes_of_resource (parent : String) :
    ∀ {keyword : Keyword ι} {resource : String × Schema ι}, resource ∈
      keyword.resources parent →
      resource.2 ∈ keyword.nodes
  | .schema s, resource, h => by
    rw [Keyword.resources] at h
    rw [Keyword.nodes]
    exact Schema.mem_nodes_of_resource parent h
  | .list items, resource, h => by
    rw [Keyword.resources] at h
    rw [Keyword.nodes]
    exact mem_itemNodes_of_itemResource parent h
  | .map entries, resource, h => by
    rw [Keyword.resources] at h
    rw [Keyword.nodes]
    exact mem_entryNodes_of_entryResource parent h
  | .value _, resource, h => by simp [Keyword.resources] at h

theorem mem_itemNodes_of_itemResource (parent : String) :
    ∀ {items : List (Keyword ι)} {resource : String × Schema ι},
      resource ∈ itemResources parent items → resource.2 ∈ itemNodes items
  | [], resource, h => by simp [itemResources] at h
  | item :: rest, resource, h => by
    rw [itemResources, List.mem_append] at h
    rw [itemNodes, List.mem_append]
    exact h.imp (Keyword.mem_nodes_of_resource parent)
      (mem_itemNodes_of_itemResource parent)

theorem mem_entryNodes_of_entryResource (parent : String) :
    ∀ {entries : List (String × Keyword ι)} {resource : String × Schema ι},
      resource ∈ entryResources parent entries → resource.2 ∈ entryNodes entries
  | [], resource, h => by simp [entryResources] at h
  | (_, entry) :: rest, resource, h => by
    rw [entryResources, List.mem_append] at h
    rw [entryNodes, List.mem_append]
    exact h.imp (Keyword.mem_nodes_of_resource parent)
      (mem_entryNodes_of_entryResource parent)

end

theorem Schema.mem_nodes_of_named {schema : Schema ι} {name : String}
    {resource : String × Schema ι} (h : resource ∈ schema.named name) :
    resource.2 ∈ schema.nodes := by
  rcases List.mem_cons.mp h with rfl | h
  · exact schema.mem_nodes_self
  · cases schema with
    | bool value => simp [Schema.keywords?, resourcesIn] at h
    | object mark keywords =>
      rw [Schema.nodes]
      exact List.mem_cons_of_mem _ (mem_entryNodes_of_resource name h)

/-! ## Pointers and anchors -/

namespace Keyword

/-- A step stays inside. -/
theorem nodes_step {token : String} {place next : Keyword ι}
    (h : place.step token = .ok next) :
    next.nodes ⊆ place.nodes := by
  have hentries : ∀ {entries : List (String × Keyword ι)},
      orMissing (Members.get? token entries) = .ok next → next.nodes ⊆
        entryNodes entries := by
    intro entries h s hs
    cases hget : Members.get? token entries with
    | none => simp [hget, orMissing] at h
    | some keyword =>
      rw [hget] at h
      cases h
      exact mem_entryNodes.mpr ⟨_, Members.mem_of_get? hget, hs⟩
  cases place with
  | schema s =>
    cases s with
    | bool b => simp [step] at h
    | object mark keywords =>
      intro s hs
      rw [Keyword.nodes, Schema.nodes]
      exact List.mem_cons_of_mem _ (hentries h hs)
  | list items =>
    intro s hs
    simp only [step, item?] at h
    rw [Keyword.nodes]
    cases hi : Pointer.index? token with
    | none => simp [hi, orMissing] at h
    | some i =>
      cases hitem : items[i]? with
      | none => simp [hi, hitem, orMissing] at h
      | some item =>
        simp only [hi, Option.bind_eq_bind, Option.bind_some, hitem, orMissing] at h
        cases h
        exact mem_itemNodes.mpr ⟨_, List.mem_of_getElem? hitem, hs⟩
  | map entries =>
    rw [Keyword.nodes]
    exact hentries h
  | value data =>
    cases data with
    | obj members =>
      simp only [step] at h
      cases hget : Members.get? token members with
      | none => simp [hget, orMissing] at h
      | some value =>
        simp only [hget, orMissing, Option.map_some] at h
        cases h
        simp [Keyword.nodes]
    | arr items =>
      simp only [step] at h
      cases hget : item? items token with
      | none => simp [hget, orMissing] at h
      | some value =>
        simp only [hget, orMissing, Option.map_some] at h
        cases h
        simp [Keyword.nodes]
    | null | bool | num | str => simp [step] at h

theorem nodes_walk {pointer : String} {tokens : List String} {place last : Keyword ι}
    (h : walk pointer tokens place = .ok last) : last.nodes ⊆ place.nodes := by
  induction tokens generalizing place with
  | nil =>
    cases h
    exact List.Subset.refl _
  | cons token rest ih =>
    simp only [walk] at h
    split at h
    · rename_i next hstep
      exact List.Subset.trans (ih h) (nodes_step hstep)
    · cases h
    · cases h

theorem land_found {pointer : String} {place : Keyword ι} {s : Schema ι}
    (h : place.land pointer = .ok (.found s)) : place = .schema s := by
  cases place with
  | schema t =>
    cases h
    rfl
  | list | map | value =>
    simp only [land] at h
    split at h <;> cases h

end Keyword

/-- A pointer that ends at a schema of the document ends inside it. -/
theorem Schema.mem_nodes_of_follow {schema s : Schema ι} {pointer : String}
    (h : schema.follow pointer = .ok (.found s)) : s ∈ schema.nodes := by
  simp only [Schema.follow] at h
  split at h
  · cases h
    exact schema.mem_nodes_self
  · cases hwalk : Keyword.walk pointer (Pointer.tokens pointer) (.schema schema) with
    | error error =>
      rw [hwalk] at h
      cases h
    | ok place =>
      rw [hwalk] at h
      have hplace := Keyword.land_found h
      subst hplace
      have hsub := Keyword.nodes_walk hwalk
      simp only [Keyword.nodes] at hsub
      exact hsub s.mem_nodes_self

theorem mem_nodes_of_searchAnchor {name : String} {visited : List NodeId}
    {pending : List Node} {node : Node}
    (h : searchAnchor name visited pending = some node) :
    ∃ schema ∈ pending, node ∈ schema.nodes := by
  fun_induction searchAnchor name visited pending with
  | case1 => simp at h
  | case2 visited value rest ih =>
    obtain ⟨schema, hmem, hnode⟩ := ih h
    exact ⟨schema, List.mem_cons_of_mem _ hmem, hnode⟩
  | case3 visited id keywords rest hid ih =>
    obtain ⟨schema, hmem, hnode⟩ := ih h
    exact ⟨schema, List.mem_cons_of_mem _ hmem, hnode⟩
  | case4 visited id keywords rest hid hanchor =>
    cases h
    exact ⟨_, List.mem_cons_self, Schema.mem_nodes_self _⟩
  | case5 visited id keywords rest hid hanchor ih =>
    obtain ⟨schema, hmem, hnode⟩ := ih h
    rcases List.mem_append.mp hmem with hmem | hmem
    · obtain ⟨sub, hsub, rfl⟩ := List.mem_map.mp hmem
      refine ⟨_, List.mem_cons_self, ?_⟩
      rw [Schema.nodes]
      exact List.mem_cons_of_mem _
        (mem_entryNodes_trans (Keywords.mem_nodes_of_subschema hsub) hnode)
    · exact ⟨schema, List.mem_cons_of_mem _ hmem, hnode⟩

/-- An anchor names a schema of the document. -/
theorem Schema.mem_nodes_of_anchored? {document node : Node} {name : String}
    (h : Node.anchored? document name = some node) : node ∈ document.nodes := by
  obtain ⟨schema, hmem, hnode⟩ := mem_nodes_of_searchAnchor h
  rw [List.mem_singleton] at hmem
  exact hmem ▸ hnode

/-- A fragment that ends at a schema of the document ends inside it. -/
theorem Schema.mem_nodes_of_locate {document node : Node} {fragment : Option String}
    (h : Node.locate document fragment = .ok (.found node)) :
    node ∈ document.nodes := by
  simp only [Node.locate] at h
  split at h
  · cases h
    exact document.mem_nodes_self
  · split at h
    · cases h
      exact document.mem_nodes_self
    · exact Schema.mem_nodes_of_follow h
    · split at h
      · rename_i found hfound
        cases h
        exact Schema.mem_nodes_of_anchored? hfound
      · exact Schema.mem_nodes_of_follow h

end SchemaDeref
