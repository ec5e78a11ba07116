import Mathlib.Logic.Function.Basic
import SchemaDeref.Proofs.Bases
import SchemaDeref.Proofs.Routes

/-!
# Other identities

What a call does with identities is to compare them and to hand out new ones. So
under other identities it does the same, as long as distinct ones stay distinct:
nodes count as the same, anchors are found, and results are remembered and recalled
as before.
-/

namespace SchemaDeref

variable {ι : Type}

/-! ## The identities in a schema -/

/-- The marks of all objects in a schema, at any depth. -/
def Schema.allMarks (schema : Schema ι) : List ι :=
  schema.nodes.filterMap Schema.mark?

theorem Schema.allMarks_subset {s schema : Schema ι} (h : s ∈ schema.nodes) :
    s.allMarks ⊆ schema.allMarks := by
  intro mark hmark
  obtain ⟨t, ht, hmark⟩ := List.mem_filterMap.mp hmark
  exact List.mem_filterMap.mpr ⟨t, Schema.mem_nodes_trans h ht, hmark⟩

mutual

theorem Schema.rename_eq_self {f : ι → ι} : ∀ {schema : Schema ι},
    (∀ mark ∈ schema.nodes.filterMap Schema.mark?, f mark = mark) →
      schema.rename f = schema
  | .bool _, _ => Schema.rename_bool f _
  | .object mark keywords, h => by
    simp only [Schema.nodes, List.filterMap_cons, Schema.mark?,
      List.forall_mem_cons] at h
    rw [Schema.rename, h.1, renameEntries_eq_self h.2]

theorem Keyword.rename_eq_self {f : ι → ι} : ∀ {keyword : Keyword ι},
    (∀ mark ∈ keyword.nodes.filterMap Schema.mark?, f mark = mark) →
      keyword.rename f = keyword
  | .schema s, h => by rw [Keyword.rename, Schema.rename_eq_self h]
  | .list items, h => by rw [Keyword.rename, renameItems_eq_self h]
  | .map entries, h => by rw [Keyword.rename, renameEntries_eq_self h]
  | .value _, _ => by rw [Keyword.rename]

theorem renameItems_eq_self {f : ι → ι} : ∀ {items : List (Keyword ι)},
    (∀ mark ∈ (itemNodes items).filterMap Schema.mark?, f mark = mark) →
      renameItems f items = items
  | [], _ => rfl
  | item :: rest, h => by
    simp only [itemNodes, List.filterMap_append, List.forall_mem_append] at h
    rw [renameItems, Keyword.rename_eq_self h.1, renameItems_eq_self h.2]

theorem renameEntries_eq_self {f : ι → ι} : ∀ {entries : List (String × Keyword ι)},
    (∀ mark ∈ (entryNodes entries).filterMap Schema.mark?, f mark = mark) →
    renameEntries f entries = entries
  | [], _ => rfl
  | (_, entry) :: rest, h => by
    simp only [entryNodes, List.filterMap_append, List.forall_mem_append] at h
    rw [renameEntries, Keyword.rename_eq_self h.1, renameEntries_eq_self h.2]

end

/-! ## New identities -/

mutual

/-- The objects of a document get the identities that are handed out for it, all of
them. -/
theorem Schema.mem_allMarks_mint (id : Nat) : ∀ (schema : Schema ι) (next : Nat),
    id ∈ (schema.mint next).1.nodes.filterMap Schema.mark? ↔ next ≤ id ∧
      id < (schema.mint next).2
  | .bool _, next => by
    simp only [Schema.mint, Schema.nodes, List.filterMap_cons, Schema.mark?,
      List.filterMap_nil, List.not_mem_nil, false_iff]
    omega
  | .object _ keywords, next => by
    have hle := (numberedIn_mintEntries keywords (next + 1)).1.le
    simp only [Schema.mint, Schema.nodes, List.filterMap_cons, Schema.mark?,
      List.mem_cons, mem_allMarks_mintEntries id keywords (next + 1)]
    omega

theorem Keyword.mem_allMarks_mint (id : Nat) : ∀ (keyword : Keyword ι) (next : Nat),
    id ∈ (keyword.mint next).1.nodes.filterMap Schema.mark? ↔ next ≤ id ∧
      id < (keyword.mint next).2
  | .schema s, next => by
    rw [Keyword.mint, Keyword.nodes]
    exact s.mem_allMarks_mint id next
  | .list items, next => by
    rw [Keyword.mint, Keyword.nodes]
    exact mem_allMarks_mintItems id items next
  | .map entries, next => by
    rw [Keyword.mint, Keyword.nodes]
    exact mem_allMarks_mintEntries id entries next
  | .value _, next => by
    simp only [Keyword.mint, Keyword.nodes, List.filterMap_nil,
      List.not_mem_nil, false_iff]
    omega

theorem mem_allMarks_mintItems (id : Nat) : ∀ (items : List (Keyword ι)) (next : Nat),
    id ∈ (itemNodes (mintItems next items).1).filterMap Schema.mark? ↔
      next ≤ id ∧ id < (mintItems next items).2
  | [], next => by
    simp only [mintItems, itemNodes, List.filterMap_nil, List.not_mem_nil, false_iff]
    omega
  | item :: rest, next => by
    have hle := (item.numberedIn_mint next).le
    have hle' := (numberedIn_mintItems rest (item.mint next).2).le
    simp only [mintItems, itemNodes, List.filterMap_append, List.mem_append,
      item.mem_allMarks_mint id next, mem_allMarks_mintItems id rest]
    omega

theorem mem_allMarks_mintEntries (id : Nat) :
    ∀ (entries : List (String × Keyword ι)) (next : Nat),
      id ∈ (entryNodes (mintEntries next entries).1).filterMap Schema.mark? ↔
        next ≤ id ∧ id < (mintEntries next entries).2
  | [], next => by
    simp only [mintEntries, entryNodes, List.filterMap_nil,
      List.not_mem_nil, false_iff]
    omega
  | (_, entry) :: rest, next => by
    have hle := (entry.numberedIn_mint next).le
    have hle' := (numberedIn_mintEntries rest (entry.mint next).2).1.le
    simp only [mintEntries, entryNodes, List.filterMap_append, List.mem_append,
      entry.mem_allMarks_mint id next, mem_allMarks_mintEntries id rest]
    omega

end

/-- That between two identities, one numbering takes the place of another: the
identity that is handed out next stands for the one that was, and the one after it
for the one after that. -/
def Renumbers (f next : NodeId → NodeId) (first last : NodeId) : Prop :=
  ∀ id, first ≤ id → id < last → f id = next id ∧ next (id + 1) = next id + 1

theorem Renumbers.mono {f next : NodeId → NodeId} {first last first' last' : NodeId}
    (h : Renumbers f next first last) (hfirst : first ≤ first')
    (hlast : last' ≤ last) :
    Renumbers f next first' last' :=
  fun id hid hid' => h id (Nat.le_trans hfirst hid) (Nat.lt_of_lt_of_le hid' hlast)

mutual

/-- Documents get new identities in the same order under either numbering. -/
theorem Schema.mint_renumbered {f next : NodeId → NodeId} :
    ∀ (schema : Schema ι) (first : NodeId),
    Renumbers f next first (schema.mint first).2 →
    schema.mint (next first) =
      ((schema.mint first).1.rename f, next (schema.mint first).2)
  | .bool _, _, _ => by simp [Schema.mint]
  | .object _ keywords, first, h => by
    rw [Schema.mint] at h
    have hle := (numberedIn_mintEntries keywords (first + 1)).1.le
    obtain ⟨hid, hnext⟩ := h first (Nat.le_refl first) hle
    have hrest := mintEntries_renumbered keywords (first + 1)
      (h.mono (Nat.le_succ first) (Nat.le_refl _))
    rw [hnext] at hrest
    simp only [Schema.mint, hrest, Schema.rename, hid]

theorem Keyword.mint_renumbered {f next : NodeId → NodeId} :
    ∀ (keyword : Keyword ι) (first : NodeId),
      Renumbers f next first (keyword.mint first).2 →
      keyword.mint (next first) =
        ((keyword.mint first).1.rename f, next (keyword.mint first).2)
  | .schema s, first, h => by
    simp only [Keyword.mint, Keyword.rename, s.mint_renumbered first h]
  | .list items, first, h => by
    simp only [Keyword.mint, Keyword.rename, mintItems_renumbered items first h]
  | .map entries, first, h => by
    simp only [Keyword.mint, Keyword.rename, mintEntries_renumbered entries first h]
  | .value _, _, _ => by simp only [Keyword.mint, Keyword.rename]

theorem mintItems_renumbered {f next : NodeId → NodeId} :
    ∀ (items : List (Keyword ι)) (first : NodeId), Renumbers f
      next first (mintItems first items).2 →
      mintItems (next first) items =
        (renameItems f (mintItems first items).1, next (mintItems first items).2)
  | [], _, _ => by simp only [mintItems, renameItems]
  | item :: rest, first, h => by
    simp only [mintItems] at h
    have hle := (item.numberedIn_mint first).le
    have hle' := (numberedIn_mintItems rest (item.mint first).2).le
    simp only [mintItems, renameItems,
      item.mint_renumbered first (h.mono (Nat.le_refl _) hle'),
      mintItems_renumbered rest _ (h.mono hle (Nat.le_refl _))]

theorem mintEntries_renumbered {f next : NodeId → NodeId} :
    ∀ (entries : List (String × Keyword ι)) (first : NodeId),
      Renumbers f next first (mintEntries first entries).2 →
      mintEntries (next first) entries =
        (renameEntries f (mintEntries first entries).1,
          next (mintEntries first entries).2)
  | [], _, _ => by simp only [mintEntries, renameEntries]
  | (_, entry) :: rest, first, h => by
    simp only [mintEntries] at h
    have hle := (entry.numberedIn_mint first).le
    have hle' := (numberedIn_mintEntries rest (entry.mint first).2).1.le
    simp only [mintEntries, renameEntries,
      entry.mint_renumbered first (h.mono (Nat.le_refl _) hle'),
      mintEntries_renumbered rest _ (h.mono hle (Nat.le_refl _))]

end

/-! ## What a scope shows -/

namespace Scope

variable (f : NodeId → NodeId)

def rename (scope : Scope) : Scope where
  root := scope.root.rename f
  base := scope.base
  depth := scope.depth
  path := scope.path
  anchors := scope.anchors.map (Schema.rename f)
  bindings := scope.bindings.map fun (name, node) => (name, node.rename f)

@[simp] theorem rename_root (scope : Scope) :
    (scope.rename f).root = scope.root.rename f := rfl

@[simp] theorem rename_base (scope : Scope) :
    (scope.rename f).base = scope.base := rfl

@[simp] theorem rename_onPath (scope : Scope) (key : String) :
    (scope.rename f).onPath key = scope.onPath key := rfl

theorem view_rename (scope : Scope) : (scope.rename f).view = scope.view := by
  simp [view, rename, Schema.erase_rename, Function.comp_def]

theorem rename_enter (scope : Scope) (id : NodeId) (keywords : Keywords NodeId) :
    (scope.enter id keywords).rename f =
      (scope.rename f).enter (f id) (renameEntries f keywords) := by
  simp only [enter, Keywords.hasRecursiveAnchor_rename,
    Keywords.dynamicAnchor?_rename, Keywords.baseWithin_rename]
  cases Keywords.hasRecursiveAnchor keywords <;> cases Keywords.dynamicAnchor?
    keywords <;> simp [rename, withAnchor, withBinding]

theorem rename_recursiveAnchor? (scope : Scope) :
    (scope.rename f).recursiveAnchor? = scope.recursiveAnchor?.map
      (Schema.rename f) := List.head?_map

theorem rename_binding? (scope : Scope) (name : String) :
    (scope.rename f).binding? name = (scope.binding? name).map (Schema.rename f) := by
  simp only [binding?, rename]
  induction scope.bindings with
  | nil => rfl
  | cons entry rest ih =>
    obtain ⟨n, node⟩ := entry
    simp only [List.map_cons, List.lookup_cons]
    split
    · rfl
    · exact ih

end Scope

def Outcome.rename (f : NodeId → NodeId) : Outcome → Outcome
  | .target node => .target (node.rename f)
  | .kept => .kept

def Destination.rename (f : NodeId → NodeId) (destination : Destination NodeId) :
    Destination NodeId :=
  ⟨destination.place.rename f, destination.root.rename f, destination.base⟩

/-! ## Distinct identities -/

theorem Schema.isSameNode_rename {f : NodeId → NodeId} (hf : f.Injective)
    (a b : Node) :
    (a.rename f).isSameNode (b.rename f) = a.isSameNode b := by
  cases a <;> cases b <;> simp [Schema.isSameNode, hf.eq_iff]

mutual

theorem Keyword.isSame_rename {f : NodeId → NodeId} (hf : f.Injective) :
    ∀ a b : Keyword NodeId,
    (a.rename f).isSame (b.rename f) = a.isSame b
  | .schema a, .schema b => by
    simp only [Keyword.rename, Keyword.isSame, a.isSameNode_rename hf b]
  | .list as, .list bs => by
    simp only [Keyword.rename, Keyword.isSame, areSameItems_rename hf as bs]
  | .map as, .map bs => by
    simp only [Keyword.rename, Keyword.isSame, areSameEntries_rename hf as bs]
  | .value _, .value _ => by simp only [Keyword.rename, Keyword.isSame]
  | .schema _, .list _ | .schema _, .map _ | .schema _, .value _ | .list _, .schema _
  | .list _, .map _ | .list _, .value _ | .map _, .schema _ | .map _, .list _
  | .map _, .value _
  | .value _, .schema _ | .value _, .list _ | .value _, .map _ => by
    simp only [Keyword.rename, Keyword.isSame]

theorem areSameItems_rename {f : NodeId → NodeId} (hf : f.Injective) :
    ∀ as bs : List (Keyword NodeId),
      areSameItems (renameItems f as) (renameItems f bs) = areSameItems as bs
  | [], [] | [], _ :: _ | _ :: _, [] => by simp only [renameItems, areSameItems]
  | a :: as, b :: bs => by
    simp only [renameItems, areSameItems, a.isSame_rename hf b,
      areSameItems_rename hf as bs]

theorem areSameEntries_rename {f : NodeId → NodeId} (hf : f.Injective) :
    ∀ as bs : List (String × Keyword NodeId),
      areSameEntries (renameEntries f as) (renameEntries f bs) = areSameEntries as bs
  | [], [] | [], _ :: _ | _ :: _, [] => by simp only [renameEntries, areSameEntries]
  | (_, a) :: as, (_, b) :: bs => by
    simp only [renameEntries, areSameEntries, a.isSame_rename hf b,
      areSameEntries_rename hf as bs]

end

theorem Keywords.map_subschemas_rename (f : ι → ι) (keywords : Keywords ι) :
    (subschemas (renameEntries f keywords)).map Subschema.schema =
      ((subschemas keywords).map Subschema.schema).map (Schema.rename f) := by
  induction keywords with
  | nil => rfl
  | cons entry rest ih =>
    obtain ⟨name, keyword⟩ := entry
    simp only [subschemas, renameEntries, List.flatMap_cons, List.map_append] at ih ⊢
    rw [ih]
    split
    · rfl
    · rw [← Keyword.applied_eq_map, ← Keyword.applied_eq_map, keyword.applied_rename]

section

variable {f : NodeId → NodeId} (hf : f.Injective)

include hf

theorem searchAnchor_rename (name : String) (visited : List NodeId)
    (pending : List Node) :
    searchAnchor name (visited.map f) (pending.map (Schema.rename f)) =
      (searchAnchor name visited pending).map (Schema.rename f) := by
  fun_induction searchAnchor name visited pending with
  | case1 visited => rw [List.map_nil, searchAnchor, Option.map_none]
  | case2 visited value rest ih =>
    rw [List.map_cons, Schema.rename, searchAnchor]
    exact ih
  | case3 visited id keywords rest hid ih =>
    rw [List.map_cons, Schema.rename, searchAnchor, if_pos (List.mem_map_of_mem hid)]
    exact ih
  | case4 visited id keywords rest hid hanchor =>
    have hid' : f id ∉ visited.map f :=
      fun h => hid ((List.mem_map_of_injective hf).mp h)
    rw [List.map_cons, Schema.rename, searchAnchor, if_neg hid',
      Keywords.hasAnchor_rename, if_pos hanchor, Option.map_some, Schema.rename]
  | case5 visited id keywords rest hid hanchor ih =>
    have hid' : f id ∉ visited.map f :=
      fun h => hid ((List.mem_map_of_injective hf).mp h)
    rw [List.map_cons, List.map_append, ← Keywords.map_subschemas_rename] at ih
    rw [List.map_cons, Schema.rename, searchAnchor, if_neg hid',
      Keywords.hasAnchor_rename, if_neg hanchor]
    exact ih

theorem Node.anchored?_rename (document : Node) (name : String) :
    Node.anchored? (document.rename f) name = (document.anchored? name).map
      (Schema.rename f) :=
  searchAnchor_rename hf name [] [document]

theorem Node.locate_rename (document : Node) (fragment : Option String) :
    Node.locate (document.rename f) fragment = (document.locate fragment).map
      (Landing.rename f) := by
  cases fragment with
  | none => rfl
  | some fragment =>
    simp only [Node.locate, Node.anchored?_rename hf, Schema.follow_rename]
    split
    · rfl
    · rfl
    · cases document.anchored? fragment <;> rfl

/-! ## Landing places -/

namespace Reference

theorem dynamicPlace?_rename (scope : Scope) (target fragment : String) :
    dynamicPlace? (scope.rename f) target fragment =
      (dynamicPlace? scope target fragment).map (Option.map (Landing.rename f)) := by
  have hfollow : ∀ (document : Node) (pointer : String),
      ((document.rename f).follow pointer).map some =
        ((document.follow pointer).map some).map (Option.map (Landing.rename f)) := by
    intro document pointer
    rw [Schema.follow_rename]
    cases document.follow pointer <;> rfl
  simp only [dynamicPlace?, Scope.rename_root, Scope.rename_binding?,
    Node.anchored?_rename hf]
  split
  · exact hfollow _ _
  · cases scope.binding? (splitAnchor fragment).1 with
    | some bound =>
      simp only [Option.map_some]
      split
      · rfl
      · exact hfollow _ _
    | none =>
      simp only [Option.map_none]
      cases scope.root.anchored? (splitAnchor fragment).1 with
      | none => rfl
      | some node => exact hfollow _ _

theorem landing_rename (scope : Scope) (reference : Reference) :
    reference.landing (scope.rename f) = (reference.landing scope).map
      (Landing.rename f) := by
  obtain ⟨kind, target⟩ := reference
  cases kind with
  | static => exact Node.locate_rename hf _ _
  | recursive =>
    have hstart : (scope.rename f).recursiveAnchor?.getD (scope.rename f).root =
        (scope.recursiveAnchor?.getD scope.root).rename f := by
      rw [Scope.rename_recursiveAnchor?]
      cases scope.recursiveAnchor? <;> rfl
    simp only [landing, hstart]
    exact Node.locate_rename hf _ _
  | dynamic =>
    simp only [landing, dynamicPlace?_rename hf]
    cases dynamicPlace? scope target _ with
    | error error => rfl
    | ok place => cases place <;> rfl

end Reference

/-! ## Memo -/

omit hf in
/-- A memo of results with other identities. -/
def Memo.rename (f : NodeId → NodeId) (memo : Memo) : Memo where
  enabled := memo.enabled
  references := memo.references.map fun (key, result) => (key, result.rename f)
  nodes := memo.nodes.map fun (id, result) => (f id, result.rename f)
  edges := memo.edges
  stats := memo.stats

namespace Memo

theorem lookup_nodes_rename (nodes : List (NodeId × Node)) (id : NodeId) :
    (nodes.map fun (id, result) => (f id, result.rename f)).lookup (f id) =
      (nodes.lookup id).map (Schema.rename f) := by
  induction nodes with
  | nil => rfl
  | cons entry rest ih =>
    obtain ⟨other, result⟩ := entry
    simp only [List.map_cons, List.lookup_cons, hf.beq_eq]
    split
    · rfl
    · exact ih

omit hf in
theorem lookup_references_rename (f : NodeId → NodeId)
    (references : List ((String × String) × Node)) (key : String × String) :
    (references.map fun (key, result) => (key, result.rename f)).lookup key =
      (references.lookup key).map (Schema.rename f) := by
  induction references with
  | nil => rfl
  | cons entry rest ih =>
    obtain ⟨other, result⟩ := entry
    simp only [List.map_cons, List.lookup_cons]
    split
    · rfl
    · exact ih

theorem recallNode_rename (memo : Memo) (node : Node) :
    (memo.rename f).recallNode (node.rename f) =
      ((memo.recallNode node).1.map (Schema.rename f),
        (memo.recallNode node).2.rename f) := by
  simp only [recallNode]
  cases node with
  | bool value =>
    simp only [Schema.rename, Schema.mark?, Option.bind_eq_bind, Option.bind_none]
    split <;> split <;> rfl
  | object id keywords =>
    simp only [Schema.rename, Schema.mark?, Option.bind_eq_bind, Option.bind_some]
    simp only [rename, lookup_nodes_rename hf]
    split
    · cases memo.nodes.lookup id <;> rfl
    · rfl

omit hf in
theorem recallTarget_rename (f : NodeId → NodeId) (memo : Memo)
    (reference : Reference) (base : Option String) :
    (memo.rename f).recallTarget reference base =
      ((memo.recallTarget reference base).1.map (Schema.rename f),
        (memo.recallTarget reference base).2.rename f) := by
  simp only [recallTarget, recallReference]
  split
  · simp only [rename, lookup_references_rename]
    split
    · cases memo.references.lookup (base.getD "", reference.target) <;> rfl
    · rfl
  · rfl

omit hf in
theorem rememberNode_rename (f : NodeId → NodeId) (memo : Memo) (node result : Node) :
    (memo.rename f).rememberNode (node.rename f) (result.rename f) =
      (memo.rememberNode node result).rename f := by
  simp only [rememberNode]
  cases node with
  | bool value => simp only [Schema.rename, Schema.mark?, ite_self]
  | object id keywords =>
    simp only [Schema.rename, Schema.mark?]
    cases henabled : memo.enabled <;> simp [rename, henabled]

omit hf in
theorem rememberTarget_rename (f : NodeId → NodeId) (memo : Memo)
    (reference : Reference) (base : Option String) (result : Node) :
    (memo.rename f).rememberTarget reference base (result.rename f) =
      (memo.rememberTarget reference base result).rename f := by
  simp only [rememberTarget, rememberReference]
  split
  · cases henabled : memo.enabled <;> simp [rename, henabled]
  · rfl

end Memo

end

end SchemaDeref
