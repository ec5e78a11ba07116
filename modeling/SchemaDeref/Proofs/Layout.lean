import SchemaDeref.Proofs.Nodes

/-!
# Where objects lie

An identity stands for one object, for good. A layout tells what lies at each
identity that has been handed out; a node is laid when it and every schema inside it
lie where the layout says. Two laid objects of one identity are equal, so what a
call takes for unchanged is unchanged.
-/

namespace SchemaDeref

variable {ι : Type}

/-- The keywords at each identity, and the first identity that is still free. -/
structure Layout where
  keywords : NodeId → Keywords NodeId
  next : NodeId

/-- What lies in one layout lies in the other too. -/
structure Layout.Extends (old new : Layout) : Prop where
  next_le : old.next ≤ new.next
  keywords_eq : ∀ id < old.next, new.keywords id = old.keywords id

theorem Layout.Extends.refl (layout : Layout) : layout.Extends layout :=
  ⟨Nat.le_refl _, fun _ _ => rfl⟩

theorem Layout.Extends.trans {a b c : Layout} (hab : a.Extends b)
    (hbc : b.Extends c) :
    a.Extends c where
  next_le := Nat.le_trans hab.next_le hbc.next_le
  keywords_eq id hid := by
    rw [hbc.keywords_eq id (Nat.lt_of_lt_of_le hid hab.next_le),
      hab.keywords_eq id hid]

/-- The layout after the next free identity is given to an object. -/
def Layout.push (layout : Layout) (keywords : Keywords NodeId) : Layout where
  keywords id := if id = layout.next then keywords else layout.keywords id
  next := layout.next + 1

theorem Layout.extends_push (layout : Layout) (keywords : Keywords NodeId) :
    layout.Extends (layout.push keywords) where
  next_le := Nat.le_succ _
  keywords_eq _ hid := if_neg (Nat.ne_of_lt hid)

/-! ## Laid schemas -/

/-- An object lies where the layout says. -/
def Schema.Lies (layout : Layout) : Node → Prop
  | .bool _ => True
  | .object id keywords => id < layout.next ∧ layout.keywords id = keywords

/-- A schema and all schemas inside it lie where the layout says. -/
def Schema.Laid (layout : Layout) (node : Node) : Prop :=
  ∀ s ∈ node.nodes, s.Lies layout

/-- All schemas in these keywords lie where the layout says. -/
def Keywords.Laid (layout : Layout) (keywords : Keywords NodeId) : Prop :=
  ∀ s ∈ entryNodes keywords, s.Lies layout

theorem Schema.Lies.mono {old new : Layout} {node : Node} (h : node.Lies old)
    (ext : old.Extends new) : node.Lies new := by
  cases node with
  | bool value => trivial
  | object id keywords =>
    exact ⟨Nat.lt_of_lt_of_le h.1 ext.next_le, (ext.keywords_eq id h.1).trans h.2⟩

namespace Schema.Laid

variable {layout : Layout}

theorem mono {old new : Layout} {node : Node} (h : node.Laid old)
    (ext : old.Extends new) :
    node.Laid new := fun s hs => (h s hs).mono ext

theorem bool (value : Bool) : Schema.Laid layout (.bool value) := by
  intro s hs
  rw [Schema.nodes, List.mem_singleton] at hs
  exact hs ▸ trivial

theorem object_iff {id : NodeId} {keywords : Keywords NodeId} :
    Schema.Laid layout (.object id keywords) ↔
      (id < layout.next ∧ layout.keywords id = keywords) ∧
        Keywords.Laid layout keywords := by
  simp only [Schema.Laid, Schema.nodes, List.forall_mem_cons, Keywords.Laid]
  rfl

theorem of_mem {node s : Node} (h : node.Laid layout)
    (hs : s ∈ node.nodes) : s.Laid layout :=
  fun t ht => h t (Schema.mem_nodes_trans hs ht)

theorem of_mem_applied {id : NodeId} {keywords : Keywords NodeId} {s : Node}
    (h : Schema.Laid layout (.object id keywords))
    (hs : s ∈ Keywords.applied keywords) :
    s.Laid layout := by
  refine h.of_mem ?_
  rw [Schema.nodes]
  exact List.mem_cons_of_mem _ (Keywords.applied_subset_nodes keywords hs)

/-- Laid nodes that count as one are equal. -/
theorem eq_of_isSameNode {a b : Node} (ha : a.Laid layout) (hb : b.Laid layout)
    (h : a.isSameNode b = true) : a = b := by
  cases a with
  | bool v =>
    cases b with
    | bool w => simpa [Schema.isSameNode] using h
    | object id keywords => simp [Schema.isSameNode] at h
  | object i keywords =>
    cases b with
    | bool w => simp [Schema.isSameNode] at h
    | object j others =>
      have hij : i = j := by simpa [Schema.isSameNode] using h
      have hi := (object_iff.mp ha).1.2
      have hj := (object_iff.mp hb).1.2
      subst hij
      rw [← hi, ← hj]

end Schema.Laid

/-! ## New identities -/

mutual

/-- Marking a document lays it in new places. -/
theorem Schema.exists_laid_mint :
    ∀ (schema : Schema ι) (layout : Layout), ∃ after : Layout, layout.Extends after ∧
      after.next = (schema.mint layout.next).2 ∧
        (schema.mint layout.next).1.Laid after
  | .bool value, layout => ⟨layout, .refl layout, by simp [Schema.mint], by
      simp [Schema.mint, Schema.Laid.bool]⟩
  | .object mark keywords, layout => by
    let minted := (mintEntries (layout.next + 1) keywords).1
    obtain ⟨after, hext, hnext, hlaid⟩ :=
      exists_laid_mintEntries keywords (layout.push minted)
    refine ⟨after, (layout.extends_push minted).trans hext, ?_, ?_⟩
    · rw [hnext, Schema.mint]
      rfl
    · simp only [Schema.mint]
      refine Schema.Laid.object_iff.mpr ⟨⟨?_, ?_⟩, hlaid⟩
      · exact Nat.lt_of_lt_of_le (Nat.lt_succ_self _) hext.next_le
      · rw [hext.keywords_eq _ (Nat.lt_succ_self _)]
        exact if_pos rfl

theorem Keyword.exists_laid_mint :
    ∀ (keyword : Keyword ι) (layout : Layout), ∃ after : Layout,
      layout.Extends after ∧
      after.next = (keyword.mint layout.next).2 ∧
      ∀ s ∈ (keyword.mint layout.next).1.nodes, s.Lies after
  | .schema s, layout => by
    obtain ⟨after, hext, hnext, hlaid⟩ := s.exists_laid_mint layout
    refine ⟨after, hext, by simpa [Keyword.mint] using hnext, ?_⟩
    simp only [Keyword.mint, Keyword.nodes]
    exact hlaid
  | .list items, layout => by
    obtain ⟨after, hext, hnext, hlaid⟩ := exists_laid_mintItems items layout
    exact ⟨after, hext, by simpa [Keyword.mint] using hnext, by
      simpa [Keyword.mint, Keyword.nodes] using hlaid⟩
  | .map entries, layout => by
    obtain ⟨after, hext, hnext, hlaid⟩ := exists_laid_mintEntries entries layout
    exact ⟨after, hext, by simpa [Keyword.mint] using hnext, by
      simpa [Keyword.mint, Keyword.nodes, Keywords.Laid] using hlaid⟩
  | .value data, layout =>
    ⟨layout, .refl layout,
      by simp [Keyword.mint], by simp [Keyword.mint, Keyword.nodes]⟩

theorem exists_laid_mintItems :
    ∀ (items : List (Keyword ι)) (layout : Layout), ∃ after : Layout,
      layout.Extends after ∧
      after.next = (mintItems layout.next items).2 ∧
      ∀ s ∈ itemNodes (mintItems layout.next items).1, s.Lies after
  | [], layout =>
    ⟨layout, .refl layout, by simp [mintItems], by simp [mintItems, itemNodes]⟩
  | item :: rest, layout => by
    obtain ⟨middle, hext, hnext, hlaid⟩ := item.exists_laid_mint layout
    obtain ⟨after, hext', hnext', hlaid'⟩ := exists_laid_mintItems rest middle
    rw [hnext] at hnext' hlaid'
    refine ⟨after, hext.trans hext', by simpa [mintItems] using hnext', ?_⟩
    intro s hs
    simp only [mintItems, itemNodes, List.mem_append] at hs
    rcases hs with hs | hs
    · exact (hlaid s hs).mono hext'
    · exact hlaid' s hs

theorem exists_laid_mintEntries :
    ∀ (entries : List (String × Keyword ι)) (layout : Layout), ∃ after : Layout,
      layout.Extends after ∧ after.next = (mintEntries layout.next entries).2 ∧
      Keywords.Laid after (mintEntries layout.next entries).1
  | [], layout =>
    ⟨layout, .refl layout,
      by simp [mintEntries], by simp [mintEntries, Keywords.Laid, entryNodes]⟩
  | (name, entry) :: rest, layout => by
    obtain ⟨middle, hext, hnext, hlaid⟩ := entry.exists_laid_mint layout
    obtain ⟨after, hext', hnext', hlaid'⟩ := exists_laid_mintEntries rest middle
    rw [hnext] at hnext' hlaid'
    refine ⟨after, hext.trans hext', by simpa [mintEntries] using hnext', ?_⟩
    intro s hs
    simp only [mintEntries, entryNodes, List.mem_append] at hs
    rcases hs with hs | hs
    · exact (hlaid s hs).mono hext'
    · exact hlaid' s hs

end

/-- A new object is laid if what it holds is. -/
theorem Layout.laid_push {layout : Layout} {keywords : Keywords NodeId}
    (h : Keywords.Laid layout keywords) :
    Schema.Laid (layout.push keywords) (.object layout.next keywords) := by
  refine Schema.Laid.object_iff.mpr ⟨⟨Nat.lt_succ_self _, if_pos rfl⟩, ?_⟩
  exact fun s hs => (h s hs).mono (layout.extends_push keywords)

/-! ## Refilled keywords -/

mutual

theorem Keyword.mem_nodes_refill {s : Schema ι} :
    ∀ {keyword : Keyword ι} {news : List (Schema ι)}, s ∈
      (keyword.refill news).nodes →
      s ∈ keyword.nodes ∨ ∃ new ∈ news, s ∈ new.nodes
  | .schema t, [], h => .inl h
  | .schema t, new :: news, h => .inr ⟨new, List.mem_cons_self, h⟩
  | .list items, news, h => by
    rw [Keyword.refill, Keyword.nodes] at h
    rw [Keyword.nodes]
    exact mem_itemNodes_refill h
  | .map entries, news, h => by
    rw [Keyword.refill, Keyword.nodes] at h
    rw [Keyword.nodes]
    exact mem_entryNodes_refill h
  | .value _, _, h => .inl h

theorem mem_itemNodes_refill {s : Schema ι} :
    ∀ {items : List (Keyword ι)} {news : List (Schema ι)}, s ∈
      itemNodes (refillItems items news) →
      s ∈ itemNodes items ∨ ∃ new ∈ news, s ∈ new.nodes
  | [], _, h => .inl h
  | item :: rest, news, h => by
    rw [refillItems, itemNodes, List.mem_append] at h
    rw [itemNodes, List.mem_append]
    rcases h with h | h
    · exact (Keyword.mem_nodes_refill h).imp .inl id
    · rcases mem_itemNodes_refill h with h | ⟨new, hnew, h⟩
      · exact .inl (.inr h)
      · exact .inr ⟨new, List.mem_of_mem_drop hnew, h⟩

theorem mem_entryNodes_refill {s : Schema ι} :
    ∀ {entries : List (String × Keyword ι)} {news : List (Schema ι)},
      s ∈ entryNodes (refillEntries entries news) →
      s ∈ entryNodes entries ∨ ∃ new ∈ news, s ∈ new.nodes
  | [], _, h => .inl h
  | (name, entry) :: rest, news, h => by
    rw [refillEntries, entryNodes, List.mem_append] at h
    rw [entryNodes, List.mem_append]
    rcases h with h | h
    · exact (Keyword.mem_nodes_refill h).imp .inl id
    · rcases mem_entryNodes_refill h with h | ⟨new, hnew, h⟩
      · exact .inl (.inr h)
      · exact .inr ⟨new, List.mem_of_mem_drop hnew, h⟩

end

namespace Keywords

theorem mem_nodes_refill {s : Schema ι} {keywords : Keywords ι}
    {news : List (Schema ι)} (h : s ∈ entryNodes (refill keywords news)) :
    s ∈ entryNodes keywords ∨ ∃ new ∈ news, s ∈ new.nodes := by
  induction keywords generalizing news with
  | nil => exact .inl h
  | cons entry rest ih =>
    obtain ⟨name, keyword⟩ := entry
    rw [entryNodes, List.mem_append]
    cases ha : (Shape.ofKeyword name).isApplicator with
    | true =>
      rw [refill, if_pos ha, entryNodes, List.mem_append] at h
      rcases h with h | h
      · exact (Keyword.mem_nodes_refill h).imp .inl id
      · rcases ih h with h | ⟨new, hnew, h⟩
        · exact .inl (.inr h)
        · exact .inr ⟨new, List.mem_of_mem_drop hnew, h⟩
    | false =>
      rw [refill_skip ha, entryNodes, List.mem_append] at h
      rcases h with h | h
      · exact .inl (.inl h)
      · exact (ih h).imp .inr id

theorem Laid.refill {layout : Layout} {keywords : Keywords NodeId} {news : List Node}
    (h : Laid layout keywords) (hnews : ∀ new ∈ news, new.Laid layout) :
    Laid layout (Keywords.refill keywords news) := by
  intro s hs
  rcases mem_nodes_refill hs with hs | ⟨new, hnew, hs⟩
  · exact h s hs
  · exact hnews new hnew s hs

theorem Laid.siblings {layout : Layout} {keywords : Keywords NodeId}
    (h : Laid layout keywords) :
    Laid layout (Keywords.siblings keywords) := by
  intro s hs
  obtain ⟨entry, hentry, hs⟩ := mem_entryNodes.mp hs
  exact h s (mem_entryNodes.mpr ⟨entry, (List.mem_filter.mp hentry).1, hs⟩)

theorem Laid.overwrite {layout : Layout} {keywords upper : Keywords NodeId}
    (h : Laid layout keywords) (hupper : Laid layout upper) :
    Laid layout (Members.overwrite keywords upper) := by
  induction upper generalizing keywords with
  | nil => exact h
  | cons entry rest ih =>
    obtain ⟨name, keyword⟩ := entry
    refine ih ?_ fun s hs => hupper s ?_
    · intro s hs
      obtain ⟨entry, hentry, hs⟩ := mem_entryNodes.mp hs
      rcases Members.mem_insert hentry with rfl | hentry
      · exact hupper s (mem_entryNodes.mpr ⟨_, List.mem_cons_self, hs⟩)
      · exact h s (mem_entryNodes.mpr ⟨entry, hentry, hs⟩)
    · rw [entryNodes]
      exact List.mem_append_right _ hs

end Keywords

/-! ## What counts as unchanged -/

mutual

theorem Keyword.refill_eq_of_isSame {layout : Layout} :
    ∀ {keyword : Keyword NodeId} {news : List Node},
      (∀ s ∈ keyword.nodes, s.Lies layout) →
      (∀ new ∈ news, new.Laid layout) → (keyword.refill news).isSame keyword = true →
      keyword.refill news = keyword
  | .schema s, [], _, _, _ => rfl
  | .schema s, new :: news, hold, hnews, h => by
    rw [Keyword.refill, Keyword.isSame] at h
    rw [Keyword.refill]
    exact congrArg Keyword.schema
      ((hnews new List.mem_cons_self).eq_of_isSameNode hold h)
  | .list items, news, hold, hnews, h => by
    rw [Keyword.refill, Keyword.isSame] at h
    rw [Keyword.refill, refillItems_eq_of_areSame hold hnews h]
  | .map entries, news, hold, hnews, h => by
    rw [Keyword.refill, Keyword.isSame] at h
    rw [Keyword.refill, refillEntries_eq_of_areSame hold hnews h]
  | .value _, _, _, _, _ => rfl

theorem refillItems_eq_of_areSame {layout : Layout} :
    ∀ {items : List (Keyword NodeId)} {news : List Node},
      (∀ s ∈ itemNodes items, s.Lies layout) →
      (∀ new ∈ news, new.Laid layout) → areSameItems (refillItems items news)
        items = true →
      refillItems items news = items
  | [], _, _, _, _ => rfl
  | item :: rest, news, hold, hnews, h => by
    rw [refillItems, areSameItems, Bool.and_eq_true] at h
    simp only [itemNodes, List.mem_append] at hold
    rw [refillItems,
      Keyword.refill_eq_of_isSame (fun s hs => hold s (.inl hs)) hnews h.1,
      refillItems_eq_of_areSame (fun s hs => hold s (.inr hs))
        (fun new hnew => hnews new (List.mem_of_mem_drop hnew)) h.2]

theorem refillEntries_eq_of_areSame {layout : Layout} :
    ∀ {entries : List (String × Keyword NodeId)} {news : List Node},
      (∀ s ∈ entryNodes entries, s.Lies layout) → (∀ new ∈ news, new.Laid layout) →
      areSameEntries (refillEntries entries news) entries = true →
      refillEntries entries news = entries
  | [], _, _, _, _ => rfl
  | (name, entry) :: rest, news, hold, hnews, h => by
    rw [refillEntries, areSameEntries, Bool.and_eq_true] at h
    simp only [entryNodes, List.mem_append] at hold
    rw [refillEntries,
      Keyword.refill_eq_of_isSame (fun s hs => hold s (.inl hs)) hnews h.1,
      refillEntries_eq_of_areSame (fun s hs => hold s (.inr hs))
        (fun new hnew => hnews new (List.mem_of_mem_drop hnew)) h.2]

end

/-- Keywords that count as the same after refilling are the same. -/
theorem Keywords.refill_eq_of_areSame {layout : Layout} {keywords : Keywords NodeId}
    {news : List Node} (hold : Laid layout keywords)
    (hnews : ∀ new ∈ news, new.Laid layout)
    (h : areSameEntries (refill keywords news) keywords = true) :
    refill keywords news = keywords := by
  induction keywords generalizing news with
  | nil => rfl
  | cons entry rest ih =>
    obtain ⟨name, keyword⟩ := entry
    simp only [Laid, entryNodes, List.mem_append] at hold
    have hrest : Laid layout rest := fun s hs => hold s (.inr hs)
    cases ha : (Shape.ofKeyword name).isApplicator with
    | true =>
      rw [refill, if_pos ha] at h ⊢
      rw [areSameEntries, Bool.and_eq_true] at h
      rw [Keyword.refill_eq_of_isSame (fun s hs => hold s (.inl hs)) hnews h.1,
        ih hrest (fun new hnew => hnews new (List.mem_of_mem_drop hnew)) h.2]
    | false =>
      rw [refill_skip ha] at h ⊢
      rw [areSameEntries, Bool.and_eq_true] at h
      rw [ih hrest hnews h.2]

end SchemaDeref
