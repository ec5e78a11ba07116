import Mathlib.Data.List.Nodup
import Mathlib.Data.List.Pairwise
import SchemaDeref.Deref.Run
import SchemaDeref.Proofs.Anchors

/-!
# Bases

The base a schema stands in, by the document alone: the identifiers of the objects
around it, joined one after the other, outermost first (`Schema.BaseAround`). It is
the one the resources of the document get their names from when they are registered
(`Schema.BaseAround.mem_resources`), and where every object has an identity of its
own there is one for each object (`Schema.BaseAround.unique`).
-/

namespace SchemaDeref

variable {ι : Type}

/-! ## The base around a schema -/

/-- `document.BaseAround start base s`: in a document that is read with the base
`start`, the schema `s` stands in the base `base`. The identifier of an object
counts for what stands inside it. -/
inductive Schema.BaseAround (document : Schema ι) (start : Option String) :
    Option String → Schema ι → Prop
  | whole : BaseAround document start start document
  | inside {base mark keywords sub}
    (object : BaseAround document start base (.object mark keywords))
    (mem : sub ∈ Keywords.subschemas keywords) :
    BaseAround document start (Keywords.baseWithin base keywords) sub.schema

/-- The base that holds inside a schema which is read with a base. -/
def Schema.baseInside (base : Option String) : Schema ι → Option String
  | .bool _ => base
  | .object _ keywords => Keywords.baseWithin base keywords

namespace Schema.BaseAround

variable {document : Schema ι} {start base : Option String}

theorem applied {mark : ι} {keywords : Keywords ι} {s : Schema ι}
    (h : document.BaseAround start base (.object mark keywords))
    (hs : s ∈ Keywords.applied keywords) :
    document.BaseAround start (Keywords.baseWithin base keywords) s := by
  obtain ⟨sub, hsub, rfl⟩ := Keywords.exists_subschema_of_applied hs
  exact .inside h hsub

/-- A schema inside an object is the object itself or stands inside one of its
subschemas. -/
theorem cases_object {outer : ι} {members : Keywords ι} {s : Schema ι}
    (h : (Schema.object outer members).BaseAround start base s) :
    (base = start ∧ s = .object outer members) ∨ ∃ sub ∈ Keywords.subschemas members,
      sub.schema.BaseAround (Keywords.baseWithin start members) base s := by
  induction h with
  | whole => exact .inl ⟨rfl, rfl⟩
  | @inside base mark keywords sub object mem ih =>
    right
    rcases ih with ⟨rfl, heq⟩ | ⟨middle, hmiddle, h⟩
    · obtain ⟨rfl, rfl⟩ := Schema.object.inj heq
      exact ⟨sub, mem, .whole⟩
    · exact ⟨middle, hmiddle, .inside h mem⟩

end Schema.BaseAround

/-! ## Names of resources -/

mutual

theorem Keyword.resources_eq (parent name pointer : String) : ∀ keyword : Keyword ι,
    keyword.resources parent =
      (keyword.subschemas name pointer).flatMap fun sub => sub.schema.resources parent
  | .schema s => by simp [Keyword.resources, Keyword.subschemas]
  | .list items => by
    rw [Keyword.resources, Keyword.subschemas,
      itemResources_eq parent name pointer 0 items]
  | .map entries => by
    rw [Keyword.resources, Keyword.subschemas,
      entryResources_eq parent name pointer entries]
  | .value _ => by simp [Keyword.resources, Keyword.subschemas]

theorem itemResources_eq (parent name pointer : String) (start : Nat) :
    ∀ items : List (Keyword ι),
    itemResources parent items =
      (subschemasOfItems name pointer start items).flatMap
        fun sub => sub.schema.resources parent
  | [] => by simp [itemResources, subschemasOfItems]
  | item :: rest => by
    rw [itemResources, subschemasOfItems, List.flatMap_append, ← item.resources_eq,
      ← itemResources_eq parent name pointer (start + 1) rest]

theorem entryResources_eq (parent name pointer : String) :
    ∀ entries : List (String × Keyword ι),
    entryResources parent entries =
      (subschemasOfEntries name pointer entries).flatMap
        fun sub => sub.schema.resources parent
  | [] => by simp [entryResources, subschemasOfEntries]
  | (key, entry) :: rest => by
    rw [entryResources, subschemasOfEntries, List.flatMap_append,
      ← entry.resources_eq, ← entryResources_eq parent name pointer rest]

end

/-- The resources inside an object are those of its subschemas. -/
theorem resourcesIn_eq (parent : String) (keywords : Keywords ι) :
    resourcesIn parent keywords =
      (Keywords.subschemas keywords).flatMap fun sub =>
        sub.schema.resources parent := by
  induction keywords with
  | nil => simp [resourcesIn, Keywords.subschemas]
  | cons entry rest ih =>
    obtain ⟨name, keyword⟩ := entry
    rw [resourcesIn, ih]
    simp only [Keywords.subschemas, List.flatMap_cons, List.flatMap_append]
    congr 1
    split
    · rfl
    · rw [keyword.resources_eq parent name (Pointer.escape name)]

namespace Schema.BaseAround

variable {document : Schema ι} {parent : String} {base : Option String}

/-- What is a resource of a schema inside a document is one of the document. -/
theorem exists_resources_subset {s : Schema ι}
    (h : document.BaseAround (some parent) base s) :
    ∃ around, base = some around ∧ s.resources around ⊆ document.resources
      parent := by
  induction h with
  | whole => exact ⟨parent, rfl, List.Subset.refl _⟩
  | @inside base mark keywords sub object mem ih =>
    obtain ⟨around, rfl, hsub⟩ := ih
    have hinside : ∀ name, sub.schema.resources name ⊆ resourcesIn name keywords := by
      intro name resource hresource
      rw [resourcesIn_eq]
      exact List.mem_flatMap.mpr ⟨sub, mem, hresource⟩
    rw [Schema.resources] at hsub
    cases hid : Keywords.id? keywords with
    | none =>
      rw [hid] at hsub
      refine ⟨around,
        by rw [Keywords.baseWithin, hid], List.Subset.trans (hinside _) hsub⟩
    | some id =>
      rw [hid] at hsub
      refine ⟨_, by rw [Keywords.baseWithin, hid], List.Subset.trans (hinside _) ?_⟩
      exact List.Subset.trans (List.subset_cons_self _ _) hsub

/-- An object with an identifier is a resource of the document, by the name its base
gives it. -/
theorem mem_resources {mark : ι} {keywords : Keywords ι} {id : String}
    (h : document.BaseAround (some parent) base (.object mark keywords))
    (hid : Keywords.id? keywords = some id) :
    (Uri.joinName base id, .object mark keywords) ∈ document.resources parent := by
  obtain ⟨around, rfl, hsub⟩ := h.exists_resources_subset
  refine hsub ?_
  rw [Schema.resources, hid]
  exact List.mem_cons_self

end Schema.BaseAround

/-! ## Objects with identities of their own -/

/-- Lists that are put together without repetition have nothing in common. -/
theorem eq_of_mem_flatMap {α β : Type} {xs : List α} {f : α → List β}
    (h : (xs.flatMap f).Nodup) {x y : α} (hx : x ∈ xs) (hy : y ∈ xs) {b : β}
    (hbx : b ∈ f x) (hby : b ∈ f y) : x = y := by
  by_contra hne
  have hsymm : Std.Symm (Function.onFun List.Disjoint f) :=
    ⟨fun _ _ h _ ha hb => h hb ha⟩
  exact (List.nodup_flatMap.mp h).2.forall hx hy hne hbx hby

/-- The identities of the objects in a schema, in the order they are written. -/
def Schema.marks (schema : Schema ι) : List ι :=
  schema.preorder.filterMap Schema.mark?

theorem Schema.marks_object (mark : ι) (keywords : Keywords ι) :
    (Schema.object mark keywords).marks =
      mark :: (Keywords.subschemas keywords).flatMap fun sub => sub.schema.marks := by
  simp only [marks, preorder, preorderIn_eq, List.filterMap_cons, mark?,
    List.filterMap_flatMap]

namespace Schema.BaseAround

variable {document : Schema ι} {start base : Option String}

theorem marks_subset {s : Schema ι} (h : document.BaseAround start base s) :
    s.marks ⊆ document.marks := by
  induction h with
  | whole => exact List.Subset.refl _
  | @inside base mark keywords sub object mem ih =>
    refine List.Subset.trans (fun m hm => ?_) ih
    rw [marks_object]
    exact List.mem_cons_of_mem _ (List.mem_flatMap.mpr ⟨sub, mem, hm⟩)

theorem mark_mem {mark : ι} {keywords : Keywords ι}
    (h : document.BaseAround start base (.object mark keywords)) :
    mark ∈ document.marks := by
  refine h.marks_subset ?_
  rw [marks_object]
  exact List.mem_cons_self

/-- Where no two objects share an identity, each stands in one base. -/
theorem unique {base other : Option String} {mark : ι} {keywords : Keywords ι} :
    ∀ {document : Schema ι} {start : Option String}, document.marks.Nodup →
      document.BaseAround start base (.object mark keywords) →
      document.BaseAround start other (.object mark keywords) → base = other
  | .bool _, _, hnodup, h, _ => absurd h.mark_mem List.not_mem_nil
  | .object outer members, start, hnodup, h, h' => by
    rw [marks_object] at hnodup
    obtain ⟨houtside, hinside⟩ := List.nodup_cons.mp hnodup
    -- the object does not stand inside itself
    have hself : ∀ {around : Option String} {sub : Subschema ι}, sub ∈
        Keywords.subschemas members →
        sub.schema.BaseAround (Keywords.baseWithin start members) around
          (.object mark keywords) →
        mark ≠ outer := by
      rintro around sub hsub hin rfl
      exact houtside (List.mem_flatMap.mpr ⟨sub, hsub, hin.mark_mem⟩)
    rcases h.cases_object with ⟨hbase, heq⟩ | ⟨sub, hsub, hin⟩
    · rcases h'.cases_object with ⟨hother, _⟩ | ⟨sub, hsub, hin⟩
      · rw [hbase, hother]
      · exact absurd (Schema.object.inj heq).1 (hself hsub hin)
    · rcases h'.cases_object with ⟨_, heq⟩ | ⟨sub', hsub', hin'⟩
      · exact absurd (Schema.object.inj heq).1 (hself hsub hin)
      · -- subschemas have no identity in common, so the object stands inside one
        -- and the same
        obtain rfl := eq_of_mem_flatMap hinside hsub hsub' hin.mark_mem hin'.mark_mem
        exact unique ((List.nodup_flatMap.mp hinside).1 sub hsub) hin hin'
termination_by document => document.count
decreasing_by
  have := countEntries_le_of_mem_nodes (Keywords.mem_nodes_of_subschema hsub)
  rw [Schema.count]
  omega

end Schema.BaseAround

/-- Identities from a range, none of them twice. -/
structure NumberedIn (first last : Nat) (marks : List Nat) : Prop where
  le : first ≤ last
  nodup : marks.Nodup
  bounds : ∀ mark ∈ marks, first ≤ mark ∧ mark < last

namespace NumberedIn

theorem nil {first last : Nat} (le : first ≤ last) : NumberedIn first last [] :=
  ⟨le, List.nodup_nil, fun _ h => absurd h List.not_mem_nil⟩

theorem cons {first last : Nat} {marks : List Nat}
    (h : NumberedIn (first + 1) last marks) :
    NumberedIn first last (first :: marks) where
  le := Nat.le_of_succ_le h.le
  nodup := List.nodup_cons.mpr
    ⟨fun hmem => by have := h.bounds _ hmem; omega, h.nodup⟩
  bounds := by
    have := h.le
    refine List.forall_mem_cons.mpr ⟨by omega, fun mark hmark => ?_⟩
    have := h.bounds mark hmark
    omega

theorem append {first middle last : Nat} {xs ys : List Nat}
    (hx : NumberedIn first middle xs) (hy : NumberedIn middle last ys) :
    NumberedIn first last (xs ++ ys) where
  le := Nat.le_trans hx.le hy.le
  nodup := by
    refine List.nodup_append.mpr ⟨hx.nodup, hy.nodup, ?_⟩
    rintro x hmem y hmem' rfl
    have := (hx.bounds x hmem).2
    have := (hy.bounds x hmem').1
    omega
  bounds mark hmark := by
    have := hx.le
    have := hy.le
    rcases List.mem_append.mp hmark with hmark | hmark
    · have := hx.bounds mark hmark
      omega
    · have := hy.bounds mark hmark
      omega

end NumberedIn

mutual

theorem Schema.numberedIn_mint : ∀ (schema : Schema ι) (next : NodeId),
    NumberedIn next (schema.mint next).2 (schema.mint next).1.marks
  | .bool value, next => by
    rw [Schema.mint]
    exact .nil (Nat.le_refl next)
  | .object mark keywords, next => by
    rw [Schema.mint, Schema.marks, Schema.preorder]
    exact (numberedIn_mintEntries keywords (next + 1)).1.cons

theorem Keyword.numberedIn_mint : ∀ (keyword : Keyword ι) (next : NodeId),
    NumberedIn next (keyword.mint next).2
      ((keyword.mint next).1.preorder.filterMap Schema.mark?)
  | .schema s, next => by
    rw [Keyword.mint]
    exact s.numberedIn_mint next
  | .list items, next => by
    rw [Keyword.mint]
    exact numberedIn_mintItems items next
  | .map entries, next => by
    rw [Keyword.mint]
    exact (numberedIn_mintEntries entries next).2
  | .value data, next => by
    rw [Keyword.mint]
    exact .nil (Nat.le_refl next)

theorem numberedIn_mintItems : ∀ (items : List (Keyword ι)) (next : NodeId),
    NumberedIn next (mintItems next items).2
      ((itemPreorder (mintItems next items).1).filterMap Schema.mark?)
  | [], next => .nil (Nat.le_refl next)
  | item :: rest, next => by
    have hitem := item.numberedIn_mint next
    have hrest := numberedIn_mintItems rest (item.mint next).2
    simp only [mintItems, itemPreorder, List.filterMap_append]
    exact hitem.append hrest

/-- As the keywords of an object, and as the entries of a map. -/
theorem numberedIn_mintEntries :
    ∀ (entries : List (String × Keyword ι)) (next : NodeId),
    NumberedIn next (mintEntries next entries).2
        ((preorderIn (mintEntries next entries).1).filterMap Schema.mark?) ∧
      NumberedIn next (mintEntries next entries).2
        ((entryPreorder (mintEntries next entries).1).filterMap Schema.mark?)
  | [], next => ⟨.nil (Nat.le_refl next), .nil (Nat.le_refl next)⟩
  | (name, entry) :: rest, next => by
    have hentry := entry.numberedIn_mint next
    obtain ⟨hkeywords, hrest⟩ := numberedIn_mintEntries rest (entry.mint next).2
    simp only [mintEntries, preorderIn, entryPreorder, List.filterMap_append]
    refine ⟨?_, hentry.append hrest⟩
    split
    · exact (NumberedIn.nil hentry.le).append hkeywords
    · exact hentry.append hkeywords

end

/-- The objects of a document of a session have identities of their own. -/
theorem Session.nodup_marks_mint (session : Session) (document : Schema ι) :
    (session.mint document).1.marks.Nodup :=
  (document.numberedIn_mint session.next).nodup

end SchemaDeref
