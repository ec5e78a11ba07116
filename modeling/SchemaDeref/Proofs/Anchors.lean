import SchemaDeref.Proofs.Layout

/-!
# The schema an anchor names

A search for an anchor looks at no object twice. It finds all the same what a plain
walk over the document finds first: when an object comes up again, everything in it
has been looked at (`anchored?_first`). All it takes is that an identity stands for
one object (`IsCoherent`), however often that object is met.
-/

namespace SchemaDeref

variable {ι : Type}

/-! ## The plain walk -/

mutual

/-- A schema and the schemas below it, through applicators and containers, each
before those it holds. -/
def Schema.preorder : Schema ι → List (Schema ι)
  | .bool value => [.bool value]
  | .object mark keywords => .object mark keywords :: preorderIn keywords

def preorderIn : List (String × Keyword ι) → List (Schema ι)
  | [] => []
  | (name, keyword) :: rest =>
    (if Shape.ofKeyword name = .value then [] else keyword.preorder) ++
      preorderIn rest

def Keyword.preorder : Keyword ι → List (Schema ι)
  | .schema s => s.preorder
  | .list items => itemPreorder items
  | .map entries => entryPreorder entries
  | .value _ => []

def itemPreorder : List (Keyword ι) → List (Schema ι)
  | [] => []
  | item :: rest => item.preorder ++ itemPreorder rest

def entryPreorder : List (String × Keyword ι) → List (Schema ι)
  | [] => []
  | (_, entry) :: rest => entry.preorder ++ entryPreorder rest

end

mutual

theorem Keyword.preorder_eq (name pointer : String) : ∀ keyword : Keyword ι,
    keyword.preorder = (keyword.subschemas name pointer).flatMap
      fun sub => sub.schema.preorder
  | .schema s => by simp [Keyword.preorder, Keyword.subschemas]
  | .list items => by
    rw [Keyword.preorder, Keyword.subschemas, itemPreorder_eq name pointer 0 items]
  | .map entries => by
    rw [Keyword.preorder, Keyword.subschemas, entryPreorder_eq name pointer entries]
  | .value _ => by simp [Keyword.preorder, Keyword.subschemas]

theorem itemPreorder_eq (name pointer : String) (start : Nat) :
    ∀ items : List (Keyword ι),
    itemPreorder items =
      (subschemasOfItems name pointer start items).flatMap
        fun sub => sub.schema.preorder
  | [] => by simp [itemPreorder, subschemasOfItems]
  | item :: rest => by
    rw [itemPreorder, subschemasOfItems, List.flatMap_append, ← item.preorder_eq,
      ← itemPreorder_eq name pointer (start + 1) rest]

theorem entryPreorder_eq (name pointer : String) :
    ∀ entries : List (String × Keyword ι),
    entryPreorder entries =
      (subschemasOfEntries name pointer entries).flatMap
        fun sub => sub.schema.preorder
  | [] => by simp [entryPreorder, subschemasOfEntries]
  | (key, entry) :: rest => by
    rw [entryPreorder, subschemasOfEntries, List.flatMap_append, ← entry.preorder_eq,
      ← entryPreorder_eq name pointer rest]

end

/-- Below an object come its subschemas, each with what is below it. -/
theorem preorderIn_eq (keywords : Keywords ι) :
    preorderIn keywords =
      (Keywords.subschemas keywords).flatMap fun sub => sub.schema.preorder := by
  induction keywords with
  | nil => simp [preorderIn, Keywords.subschemas]
  | cons entry rest ih =>
    obtain ⟨name, keyword⟩ := entry
    rw [preorderIn, ih]
    simp only [Keywords.subschemas, List.flatMap_cons, List.flatMap_append]
    split
    · rfl
    · rw [keyword.preorder_eq name (Pointer.escape name)]

/-- A schema comes before its subschemas, and these come in their order, each with
what is below it. -/
theorem Schema.preorder_eq (schema : Schema ι) :
    schema.preorder = schema :: schema.subschemas.flatMap
      fun sub => sub.schema.preorder := by
  cases schema with
  | bool value => rfl
  | object mark keywords => rw [preorder, preorderIn_eq, subschemas]

mutual

theorem Schema.preorder_subset_nodes :
    ∀ schema : Schema ι, schema.preorder ⊆ schema.nodes
  | .bool _ => by simp [Schema.preorder, Schema.nodes]
  | .object mark keywords => by
    rw [Schema.preorder, Schema.nodes]
    exact List.cons_subset_cons _ (preorderIn_subset_nodes keywords)

theorem preorderIn_subset_nodes :
    ∀ keywords : List (String × Keyword ι), preorderIn keywords ⊆ entryNodes keywords
  | [] => by simp [preorderIn]
  | (name, keyword) :: rest => by
    rw [preorderIn, entryNodes]
    refine List.append_subset.mpr
      ⟨List.subset_append_of_subset_left _ ?_,
        List.subset_append_of_subset_right _ (preorderIn_subset_nodes rest)⟩
    split
    · exact List.nil_subset _
    · exact keyword.preorder_subset_nodes

theorem Keyword.preorder_subset_nodes :
    ∀ keyword : Keyword ι, keyword.preorder ⊆ keyword.nodes
  | .schema s => by
    rw [Keyword.preorder, Keyword.nodes]
    exact s.preorder_subset_nodes
  | .list items => by
    rw [Keyword.preorder, Keyword.nodes]
    exact itemPreorder_subset_nodes items
  | .map entries => by
    rw [Keyword.preorder, Keyword.nodes]
    exact entryPreorder_subset_nodes entries
  | .value _ => by simp [Keyword.preorder]

theorem itemPreorder_subset_nodes :
    ∀ items : List (Keyword ι), itemPreorder items ⊆ itemNodes items
  | [] => by simp [itemPreorder]
  | item :: rest => by
    rw [itemPreorder, itemNodes]
    exact List.append_subset.mpr
      ⟨List.subset_append_of_subset_left _ item.preorder_subset_nodes,
        List.subset_append_of_subset_right _ (itemPreorder_subset_nodes rest)⟩

theorem entryPreorder_subset_nodes :
    ∀ entries : List (String × Keyword ι), entryPreorder entries ⊆ entryNodes entries
  | [] => by simp [entryPreorder]
  | (_, entry) :: rest => by
    rw [entryPreorder, entryNodes]
    exact List.append_subset.mpr
      ⟨List.subset_append_of_subset_left _ entry.preorder_subset_nodes,
        List.subset_append_of_subset_right _ (entryPreorder_subset_nodes rest)⟩

end

mutual

theorem Schema.preorder_erase : ∀ schema : Schema ι,
    schema.erase.preorder = schema.preorder.map Schema.erase
  | .bool _ => by simp [Schema.preorder]
  | .object mark keywords => by
    simp only [Schema.erase, Schema.preorder, List.map_cons,
      preorderIn_erase keywords]

theorem preorderIn_erase : ∀ keywords : List (String × Keyword ι),
    preorderIn (eraseEntries keywords) = (preorderIn keywords).map Schema.erase
  | [] => by simp [eraseEntries, preorderIn]
  | (name, keyword) :: rest => by
    simp only [eraseEntries, preorderIn, preorderIn_erase rest, List.map_append]
    split
    · rfl
    · rw [keyword.preorder_erase]

theorem Keyword.preorder_erase : ∀ keyword : Keyword ι,
    keyword.erase.preorder = keyword.preorder.map Schema.erase
  | .schema s => by simp only [Keyword.erase, Keyword.preorder, s.preorder_erase]
  | .list items => by
    simp only [Keyword.erase, Keyword.preorder, itemPreorder_erase items]
  | .map entries => by
    simp only [Keyword.erase, Keyword.preorder, entryPreorder_erase entries]
  | .value _ => by simp [Keyword.erase, Keyword.preorder]

theorem itemPreorder_erase : ∀ items : List (Keyword ι),
    itemPreorder (eraseItems items) = (itemPreorder items).map Schema.erase
  | [] => by simp [eraseItems, itemPreorder]
  | item :: rest => by
    simp only [eraseItems, itemPreorder, item.preorder_erase, itemPreorder_erase rest,
      List.map_append]

theorem entryPreorder_erase : ∀ entries : List (String × Keyword ι),
    entryPreorder (eraseEntries entries) = (entryPreorder entries).map Schema.erase
  | [] => by simp [eraseEntries, entryPreorder]
  | (_, entry) :: rest => by
    simp only [eraseEntries, entryPreorder, entry.preorder_erase,
      entryPreorder_erase rest, List.map_append]

end

/-! ## One object for an identity -/

/-- Objects of one identity are one object. -/
def IsCoherent (nodes : List Node) : Prop :=
  ∀ ⦃id keywords others⦄, .object id keywords ∈ nodes → .object id others ∈ nodes →
    keywords = others

theorem IsCoherent.mono {nodes more : List Node} (h : IsCoherent more)
    (hsub : nodes ⊆ more) :
    IsCoherent nodes := fun _ _ _ hone hother => h (hsub hone) (hsub hother)

theorem isCoherent_of_lies {layout : Layout} {nodes : List Node}
    (h : ∀ s ∈ nodes, s.Lies layout) :
    IsCoherent nodes := by
  intro id keywords others hone hother
  rw [← (h _ hone).2, (h _ hother).2]

theorem Schema.Laid.isCoherent {layout : Layout} {document : Node}
    (h : document.Laid layout) :
    IsCoherent document.preorder :=
  isCoherent_of_lies fun s hs => h s (document.preorder_subset_nodes hs)

/-! ## The search -/

/-- Whether a schema is an object with an anchor of a name. -/
def Schema.isAnchored (name : String) : Schema ι → Bool
  | .bool _ => false
  | .object _ keywords => Keywords.hasAnchor keywords name

@[simp] theorem Schema.isAnchored_erase (name : String) (schema : Schema ι) :
    schema.erase.isAnchored name = schema.isAnchored name := by
  cases schema <;> simp [Schema.isAnchored]

/-- Where an object comes up that was visited before, and there is an anchor in it,
there is one further to the front. -/
def Passed (name : String) (visited : List NodeId) (walk : List Node) : Prop :=
  ∀ front id keywords back, walk = front ++ .object id keywords :: back →
    id ∈ visited →
    (∃ s ∈ (Schema.object id keywords).preorder, s.isAnchored name = true) →
    ∃ s ∈ front, s.isAnchored name = true

theorem Passed.skip {name : String} {visited : List NodeId} {id : NodeId}
    {keywords : Keywords NodeId} {walk : List Node} (hid : id ∈ visited)
    (h : Passed name visited ((Schema.object id keywords).preorder ++ walk)) :
    (∀ s ∈ (Schema.object id keywords).preorder, ¬ s.isAnchored name = true) ∧
      Passed name visited walk := by
  have hnone : ∀ s ∈ (Schema.object id keywords).preorder, ¬ s.isAnchored name =
      true := by
    intro s hs hanchor
    obtain ⟨t, ht, _⟩ :=
      h [] id keywords (preorderIn keywords ++ walk) rfl hid ⟨s, hs, hanchor⟩
    simp at ht
  refine ⟨hnone, ?_⟩
  intro front id' keywords' back heq hid' hanchor
  obtain ⟨s, hs, hs'⟩ := h (_ ++ front) id' keywords' back
    (by rw [heq, List.append_assoc]) hid' hanchor
  rcases List.mem_append.mp hs with hs | hs
  · exact absurd hs' (hnone s hs)
  · exact ⟨s, hs, hs'⟩

theorem Passed.visit {name : String} {visited : List NodeId} {id : NodeId}
    {keywords : Keywords NodeId} {walk : List Node}
    (hno : ¬ Keywords.hasAnchor keywords name = true)
    (hcoherent : IsCoherent ((Schema.object id keywords).preorder ++ walk))
    (h : Passed name visited ((Schema.object id keywords).preorder ++ walk)) :
    Passed name (id :: visited) (preorderIn keywords ++ walk) := by
  rw [Schema.preorder] at h hcoherent
  intro front id' keywords' back heq hid' hanchor
  rcases List.mem_cons.mp hid' with rfl | hid'
  · -- the object itself again: below itself it cannot be, so all of it stands
    -- further to the front
    have hagain : Schema.object id' keywords' ∈ preorderIn keywords ++ walk := by
      rw [heq]
      exact List.mem_append_right _ List.mem_cons_self
    have hkeywords : keywords' = keywords :=
      hcoherent (List.mem_cons_of_mem _ hagain) List.mem_cons_self
    subst hkeywords
    obtain ⟨s, hs, hs'⟩ := hanchor
    rw [Schema.preorder, List.mem_cons] at hs
    rcases hs with rfl | hs
    · exact absurd hs' hno
    · rcases List.append_eq_append_iff.mp
        heq with ⟨more, hfront, _⟩ | ⟨more, hbelow, hmore⟩
      · exact ⟨s, hfront ▸ List.mem_append_left _ hs, hs'⟩
      · cases more with
        | nil =>
          rw [List.append_nil] at hbelow
          exact ⟨s, hbelow ▸ hs, hs'⟩
        | cons first others =>
          rw [List.cons_append, List.cons.injEq] at hmore
          refine absurd (preorderIn_subset_nodes keywords' ?_)
            (Schema.not_mem_entryNodes_self id' keywords')
          rw [hbelow, ← hmore.1]
          exact List.mem_append_right _ List.mem_cons_self
  · obtain ⟨s, hs, hs'⟩ := h (.object id keywords :: front) id' keywords' back
      (by rw [List.cons_append, List.cons_append, heq]) hid' hanchor
    rcases List.mem_cons.mp hs with rfl | hs
    · exact absurd hs' hno
    · exact ⟨s, hs, hs'⟩

theorem searchAnchor_eq_find? {name : String} {visited : List NodeId}
    {pending : List Node} (hcoherent : IsCoherent (pending.flatMap Schema.preorder))
    (hpassed : Passed name visited (pending.flatMap Schema.preorder)) :
    searchAnchor name visited pending =
      (pending.flatMap Schema.preorder).find? (Schema.isAnchored name) := by
  fun_induction searchAnchor name visited pending with
  | case1 => rfl
  | case2 visited value rest ih =>
    simp only [List.flatMap_cons, Schema.preorder, List.singleton_append]
      at hcoherent hpassed ⊢
    rw [List.find?_cons_of_neg (by simp [Schema.isAnchored])]
    refine ih (hcoherent.mono (List.subset_cons_self _ _)) ?_
    intro front id keywords back heq hid hanchor
    obtain ⟨s, hs, hs'⟩ := hpassed (.bool value :: front) id keywords back
      (by rw [heq, List.cons_append]) hid hanchor
    rcases List.mem_cons.mp hs with rfl | hs
    · simp [Schema.isAnchored] at hs'
    · exact ⟨s, hs, hs'⟩
  | case3 visited id keywords rest hid ih =>
    rw [List.flatMap_cons] at hcoherent hpassed ⊢
    obtain ⟨hnone, hrest⟩ := hpassed.skip hid
    rw [List.find?_append, List.find?_eq_none.mpr hnone, Option.none_or]
    exact ih (hcoherent.mono (List.subset_append_right _ _)) hrest
  | case4 visited id keywords rest hid hanchor =>
    have hfirst : Schema.isAnchored name (.object id keywords) = true := hanchor
    rw [List.flatMap_cons, Schema.preorder, List.cons_append,
      List.find?_cons_of_pos hfirst]
  | case5 visited id keywords rest hid hanchor ih =>
    have hsubs : ((Keywords.subschemas keywords).map Subschema.schema ++ rest).flatMap
        Schema.preorder = preorderIn keywords ++ rest.flatMap Schema.preorder := by
      rw [List.flatMap_append, List.flatMap_map, preorderIn_eq]
    have hfirst : ¬ Schema.isAnchored name (.object id keywords) = true := hanchor
    rw [List.flatMap_cons] at hcoherent hpassed ⊢
    rw [hsubs] at ih
    have hnext := hpassed.visit hanchor hcoherent
    rw [Schema.preorder] at hcoherent ⊢
    rw [List.cons_append, List.find?_cons_of_neg hfirst]
    exact ih (hcoherent.mono (List.subset_cons_self _ _)) hnext

/-- In a document where an identity stands for one object, an anchor names the first
schema that has it in the order the document is written. -/
theorem Node.anchored?_eq {document : Node} (h : IsCoherent document.preorder)
    (name : String) :
    document.anchored? name = document.preorder.find? (Schema.isAnchored name) := by
  have hwalk : [document].flatMap Schema.preorder = document.preorder := by simp
  have hpassed : Passed name [] ([document].flatMap Schema.preorder) := by
    intro front id keywords back _ hid
    simp at hid
  rw [anchored?, searchAnchor_eq_find? (hwalk.symm ▸ h) hpassed, hwalk]

/-- An anchor names the first schema that has it in the order the document is
written. -/
theorem Schema.Laid.anchored?_eq {layout : Layout} {document : Node}
    (h : document.Laid layout) (name : String) :
    document.anchored? name = document.preorder.find? (Schema.isAnchored name) :=
  Node.anchored?_eq h.isCoherent name

/-- The search for an anchor goes by the plain walk: a schema, and then its
subschemas in their order, each with what is below it. It finds the first on this
walk that has the anchor, and none just if none has it. -/
theorem anchored?_first {document : Node} (h : IsCoherent document.preorder)
    (name : String) :
    (∀ s : Node, s.preorder = s :: s.subschemas.flatMap
      fun sub => sub.schema.preorder) ∧
    (∀ node, document.anchored? name = some node ↔
      ∃ front back, document.preorder = front ++ node :: back ∧
        node.isAnchored name = true ∧
        ∀ s ∈ front, s.isAnchored name = false) ∧
    (document.anchored? name = none ↔
      ∀ s ∈ document.preorder, s.isAnchored name = false) := by
  rw [Node.anchored?_eq h]
  refine ⟨Schema.preorder_eq, fun node => ?_, ?_⟩
  · simp only [List.find?_eq_some_iff_append, Bool.not_eq_true']
    constructor
    · rintro ⟨hnode, front, back, hwalk, hfront⟩
      exact ⟨front, back, hwalk, hnode, hfront⟩
    · rintro ⟨front, back, hwalk, hnode, hfront⟩
      exact ⟨hnode, front, back, hwalk, hfront⟩
  · simp only [List.find?_eq_none, Bool.not_eq_true]

/-- Keywords with a part that stands in them twice, before two others that have an
anchor. -/
def sharedPart : Keywords NodeId :=
  let part := Keyword.schema (.object 1 [("not", .schema (.object 2 []))])
  [("allOf", .list [part, part,
    .schema (.object 3 [("$dynamicAnchor", .value (.str "here"))]),
    .schema (.object 4 [("$anchor", .value (.str "here"))])])]

/-- The object with these keywords. -/
def sharedNode : Node := .object 0 sharedPart

theorem preorder_sharedNode : sharedNode.preorder =
    [sharedNode, .object 1 [("not", .schema (.object 2 []))], .object 2 [],
      .object 1 [("not", .schema (.object 2 []))], .object 2 []] ++
    .object 3 [("$dynamicAnchor", .value (.str "here"))] ::
    [.object 4 [("$anchor", .value (.str "here"))]] := rfl

theorem isCoherent_sharedNode : IsCoherent sharedNode.preorder := by
  let layout : Layout := ⟨fun
    | 0 => sharedPart
    | 1 => [("not", .schema (.object 2 []))]
    | 3 => [("$dynamicAnchor", .value (.str "here"))]
    | 4 => [("$anchor", .value (.str "here"))]
    | _ => [], 5⟩
  have hlies : ∀ s ∈ sharedNode.preorder, s.Lies layout := by
    intro s hs
    simp only [preorder_sharedNode, List.cons_append, List.nil_append, List.mem_cons,
      List.not_mem_nil, or_false] at hs
    rcases hs with rfl | rfl | rfl | rfl | rfl | rfl | rfl <;> exact ⟨by decide, rfl⟩
  exact isCoherent_of_lies hlies

theorem anchored?_first_sharedNode :
    IsCoherent sharedNode.preorder ∧
    sharedNode.anchored? "here" =
      some (.object 3 [("$dynamicAnchor", .value (.str "here"))]) ∧
    sharedNode.anchored? "there" = none := by
  have hcoherent := isCoherent_sharedNode
  refine ⟨hcoherent, ?_, ?_⟩
  · exact ((anchored?_first hcoherent "here").2.1 _).mpr
      ⟨_, _, preorder_sharedNode, by decide, by decide⟩
  · exact (anchored?_first hcoherent "there").2.2.mpr (by decide)

end SchemaDeref
