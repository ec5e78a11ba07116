import SchemaDeref.Proofs.Steps

/-!
# Applied subschemas

The schemas an object applies: those under its applicators, through any nesting of
lists and maps, in the order they are written. `Keywords.refill` puts others in
their places. With these two the five mutual functions that dereference the keywords
of an object become one pass over a list (`derefKeywords_eq`), and an induction over
a schema has two cases (`Schema.appliedInduction`).
-/

namespace SchemaDeref

variable {ι : Type}

/-! ## The schemas in a keyword -/

mutual

def Keyword.applied : Keyword ι → List (Schema ι)
  | .schema s => [s]
  | .list items => appliedItems items
  | .map entries => appliedEntries entries
  | .value _ => []

def appliedItems : List (Keyword ι) → List (Schema ι)
  | [] => []
  | item :: rest => item.applied ++ appliedItems rest

def appliedEntries : List (String × Keyword ι) → List (Schema ι)
  | [] => []
  | (_, entry) :: rest => entry.applied ++ appliedEntries rest

end

/-- The schemas under the applicators of an object. -/
def Keywords.applied : Keywords ι → List (Schema ι)
  | [] => []
  | (name, keyword) :: rest =>
    (if (Shape.ofKeyword name).isApplicator then keyword.applied else []) ++
      applied rest

mutual

/-- Puts schemas in place of those in a keyword, as many as there are. -/
def Keyword.refill : Keyword ι → List (Schema ι) → Keyword ι
  | .schema s, news => .schema (news.headD s)
  | .list items, news => .list (refillItems items news)
  | .map entries, news => .map (refillEntries entries news)
  | .value data, _ => .value data

def refillItems : List (Keyword ι) → List (Schema ι) → List (Keyword ι)
  | [], _ => []
  | item :: rest, news =>
    item.refill news :: refillItems rest (news.drop item.applied.length)

def refillEntries :
    List (String × Keyword ι) → List (Schema ι) → List (String × Keyword ι)
  | [], _ => []
  | (name, entry) :: rest, news =>
    (name, entry.refill news) :: refillEntries rest (news.drop entry.applied.length)

end

/-- The keywords of an object with other schemas under the applicators. -/
def Keywords.refill : Keywords ι → List (Schema ι) → Keywords ι
  | [], _ => []
  | (name, keyword) :: rest, news =>
    if (Shape.ofKeyword name).isApplicator then
      (name, keyword.refill news) :: refill rest (news.drop keyword.applied.length)
    else (name, keyword) :: refill rest news

/-! ## Refilling -/

/-- A list as long as two others together, in two parts. -/
private theorem exists_parts {α : Type} {xs : List α} {m n : Nat}
    (h : xs.length = m + n) :
    ∃ front back, xs = front ++ back ∧ front.length = m ∧ back.length = n :=
  ⟨xs.take m, xs.drop m, (List.take_append_drop m xs).symm,
    by rw [List.length_take]; omega, by rw [List.length_drop]; omega⟩

mutual

/-- Refilling takes no more schemas than it needs. -/
theorem Keyword.refill_append (more : List (Schema ι)) :
    ∀ (keyword : Keyword ι) (news : List (Schema ι)), news.length =
      keyword.applied.length →
      keyword.refill (news ++ more) = keyword.refill news
  | .schema s, [], h => by simp [Keyword.applied] at h
  | .schema s, new :: news, h => by simp [Keyword.refill]
  | .list items, news, h => by
    simp only [Keyword.refill, refillItems_append more items news h]
  | .map entries, news, h => by
    simp only [Keyword.refill, refillEntries_append more entries news h]
  | .value _, _, _ => rfl

theorem refillItems_append (more : List (Schema ι)) :
    ∀ (items : List (Keyword ι)) (news : List (Schema ι)),
      news.length = (appliedItems items).length →
      refillItems items (news ++ more) = refillItems items news
  | [], _, _ => rfl
  | item :: rest, news, h => by
    obtain ⟨front, back, rfl, hf, hb⟩ :=
      exists_parts (by simpa [appliedItems] using h)
    simp only [refillItems, List.append_assoc]
    rw [item.refill_append _ front hf, item.refill_append _ front hf, ← hf,
      List.drop_left, List.drop_left, refillItems_append more rest back hb]

theorem refillEntries_append (more : List (Schema ι)) :
    ∀ (entries : List (String × Keyword ι)) (news : List (Schema ι)),
      news.length = (appliedEntries entries).length →
      refillEntries entries (news ++ more) = refillEntries entries news
  | [], _, _ => rfl
  | (name, entry) :: rest, news, h => by
    obtain ⟨front, back, rfl, hf, hb⟩ :=
      exists_parts (by simpa [appliedEntries] using h)
    simp only [refillEntries, List.append_assoc]
    rw [entry.refill_append _ front hf, entry.refill_append _ front hf, ← hf,
      List.drop_left, List.drop_left, refillEntries_append more rest back hb]

end

theorem refillItems_cons {item : Keyword ι} {rest : List (Keyword ι)}
    {front back : List (Schema ι)} (h : front.length = item.applied.length) :
    refillItems (item :: rest) (front ++ back) = item.refill front ::
      refillItems rest back := by
  simp only [refillItems, item.refill_append back front h, ← h, List.drop_left]

theorem refillEntries_cons {name : String} {entry : Keyword ι}
    {rest : List (String × Keyword ι)} {front back : List (Schema ι)}
    (h : front.length = entry.applied.length) :
    refillEntries ((name, entry) :: rest) (front ++ back) =
      (name, entry.refill front) :: refillEntries rest back := by
  simp only [refillEntries, entry.refill_append back front h, ← h, List.drop_left]

namespace Keywords

theorem refill_cons {name : String} {keyword : Keyword ι} {rest : Keywords ι}
    {front back : List (Schema ι)} (ha : (Shape.ofKeyword name).isApplicator = true)
    (h : front.length = keyword.applied.length) :
    refill ((name, keyword) :: rest) (front ++ back) =
      (name, keyword.refill front) :: refill rest back := by
  simp only [refill, ha, if_true, keyword.refill_append back front h, ← h,
    List.drop_left]

theorem refill_skip {name : String} {keyword : Keyword ι} {rest : Keywords ι}
    {news : List (Schema ι)} (ha : (Shape.ofKeyword name).isApplicator = false) :
    refill ((name, keyword) :: rest) news = (name, keyword) :: refill rest news := by
  simp [refill, ha]

theorem applied_cons {name : String} {keyword : Keyword ι} {rest : Keywords ι}
    (ha : (Shape.ofKeyword name).isApplicator = true) :
    applied ((name, keyword) :: rest) = keyword.applied ++ applied rest := by
  simp [applied, ha]

theorem applied_skip {name : String} {keyword : Keyword ι} {rest : Keywords ι}
    (ha : (Shape.ofKeyword name).isApplicator = false) :
    applied ((name, keyword) :: rest) = applied rest := by
  simp [applied, ha]

end Keywords

mutual

theorem Keyword.applied_refill :
    ∀ (keyword : Keyword ι) (news : List (Schema ι)), news.length =
      keyword.applied.length →
      (keyword.refill news).applied = news
  | .schema s, news, h => by
    obtain ⟨new, rfl⟩ := List.length_eq_one_iff.mp h
    rfl
  | .list items, news, h => by
    simpa only [Keyword.refill, Keyword.applied] using applied_refillItems
      items news h
  | .map entries, news, h => by
    simpa only [Keyword.refill, Keyword.applied] using applied_refillEntries
      entries news h
  | .value _, news, h => by
    rw [List.length_eq_zero_iff.mp h]
    rfl

theorem applied_refillItems :
    ∀ (items : List (Keyword ι)) (news : List (Schema ι)),
      news.length = (appliedItems items).length →
        appliedItems (refillItems items news) = news
  | [], news, h => (List.length_eq_zero_iff.mp h).symm
  | item :: rest, news, h => by
    obtain ⟨front, back, rfl, hf, hb⟩ :=
      exists_parts (by simpa [appliedItems] using h)
    rw [refillItems_cons hf, appliedItems, item.applied_refill front hf,
      applied_refillItems rest back hb]

theorem applied_refillEntries :
    ∀ (entries : List (String × Keyword ι)) (news : List (Schema ι)),
      news.length = (appliedEntries entries).length →
      appliedEntries (refillEntries entries news) = news
  | [], news, h => (List.length_eq_zero_iff.mp h).symm
  | (name, entry) :: rest, news, h => by
    obtain ⟨front, back, rfl, hf, hb⟩ :=
      exists_parts (by simpa [appliedEntries] using h)
    rw [refillEntries_cons hf, appliedEntries, entry.applied_refill front hf,
      applied_refillEntries rest back hb]

end

/-- What was put under the applicators is what stands there afterwards. -/
theorem Keywords.applied_refill (keywords : Keywords ι) (news : List (Schema ι))
    (h : news.length = (applied keywords).length) :
    applied (refill keywords news) = news := by
  induction keywords generalizing news with
  | nil => exact (List.length_eq_zero_iff.mp h).symm
  | cons entry rest ih =>
    obtain ⟨name, keyword⟩ := entry
    cases ha : (Shape.ofKeyword name).isApplicator with
    | true =>
      obtain ⟨front, back, rfl, hf, hb⟩ :=
        exists_parts (by simpa [applied_cons ha] using h)
      rw [refill_cons ha hf, applied_cons ha,
        keyword.applied_refill front hf, ih back hb]
    | false =>
      rw [applied_skip ha] at h
      rw [refill_skip ha, applied_skip ha, ih news h]

mutual

theorem Keyword.refill_applied :
    ∀ keyword : Keyword ι, keyword.refill keyword.applied = keyword
  | .schema _ => rfl
  | .list items => by rw [Keyword.applied, Keyword.refill, refillItems_applied items]
  | .map entries => by
    rw [Keyword.applied, Keyword.refill, refillEntries_applied entries]
  | .value _ => rfl

theorem refillItems_applied :
    ∀ items : List (Keyword ι), refillItems items (appliedItems items) = items
  | [] => rfl
  | item :: rest => by
    rw [appliedItems, refillItems_cons rfl, item.refill_applied,
      refillItems_applied rest]

theorem refillEntries_applied :
    ∀ entries : List (String × Keyword ι), refillEntries entries
      (appliedEntries entries) = entries
  | [] => rfl
  | (name, entry) :: rest => by
    rw [appliedEntries, refillEntries_cons rfl, entry.refill_applied,
      refillEntries_applied rest]

end

/-! ## What refilling leaves alone -/

theorem ReferenceKind.ofKeyword_of_isKeyword {name : String}
    (h : ReferenceKind.isKeyword name = true) : Shape.ofKeyword name = .value := by
  simp only [ReferenceKind.isKeyword, ReferenceKind.all, List.any_cons,
    List.any_nil, Bool.or_false, Bool.or_eq_true, beq_iff_eq] at h
  rcases h with rfl | rfl | rfl <;> decide

theorem ReferenceKind.isApplicator_of_isKeyword {name : String}
    (h : ReferenceKind.isKeyword name = true) :
    (Shape.ofKeyword name).isApplicator = false := by
  rw [ofKeyword_of_isKeyword h]
  rfl

namespace Keywords

theorem get?_refill {name : String} (hn : (Shape.ofKeyword name).isApplicator = false)
    (keywords : Keywords ι) (news : List (Schema ι)) :
    Members.get? name (refill keywords news) = Members.get? name keywords := by
  induction keywords generalizing news with
  | nil => rfl
  | cons entry rest ih =>
    obtain ⟨n, keyword⟩ := entry
    cases ha : (Shape.ofKeyword n).isApplicator with
    | true =>
      have hne : n ≠ name := by
        rintro rfl
        simp [ha] at hn
      simp [refill, ha, Members.get?, hne, ih]
    | false => simp only [refill_skip ha, Members.get?, ih]

theorem string?_refill {name : String}
    (hn : (Shape.ofKeyword name).isApplicator = false) (keywords : Keywords ι)
    (news : List (Schema ι)) :
    string? (refill keywords news) name = string? keywords name := by
  rw [string?, string?, get?_refill hn]

theorem reference?_refill (keywords : Keywords ι) (news : List (Schema ι)) :
    reference? (refill keywords news) = reference? keywords := by
  simp only [reference?, ReferenceKind.all, List.findSome?_cons, List.findSome?_nil]
  rw [string?_refill (by decide), string?_refill (by decide),
    string?_refill (by decide)]

theorem applied_siblings (keywords : Keywords ι) :
    applied (siblings keywords) = applied keywords := by
  induction keywords with
  | nil => rfl
  | cons entry rest ih =>
    obtain ⟨name, keyword⟩ := entry
    simp only [siblings, List.filter_cons] at ih ⊢
    cases hk : ReferenceKind.isKeyword name with
    | true =>
      have ha := ReferenceKind.isApplicator_of_isKeyword hk
      simp only [Bool.not_true, Bool.false_eq_true, if_false, ih, applied_skip ha]
    | false => simp only [Bool.not_false, if_true, applied, ih]

end Keywords

/-! ## The number of applied schemas -/

mutual

theorem Keyword.countAll_applied_le : ∀ keyword : Keyword ι,
    countAll keyword.applied ≤ keyword.count
  | .schema s => by simp [Keyword.applied, Keyword.count, countAll]
  | .list items => by simpa only [Keyword.applied, Keyword.count]
    using countAll_appliedItems_le items
  | .map entries => by
    simpa only [Keyword.applied, Keyword.count] using countAll_appliedEntries_le
      entries
  | .value _ => by simp [Keyword.applied, countAll]

theorem countAll_appliedItems_le : ∀ items : List (Keyword ι),
    countAll (appliedItems items) ≤ countItems items
  | [] => by simp [appliedItems, countAll]
  | item :: rest => by
    have := item.countAll_applied_le
    have := countAll_appliedItems_le rest
    simp only [appliedItems, countAll_append, countItems]
    omega

theorem countAll_appliedEntries_le : ∀ entries : List (String × Keyword ι),
    countAll (appliedEntries entries) ≤ countEntries entries
  | [] => by simp [appliedEntries, countAll]
  | (_, entry) :: rest => by
    have := entry.countAll_applied_le
    have := countAll_appliedEntries_le rest
    simp only [appliedEntries, countAll_append, countEntries]
    omega

end

theorem Keywords.countAll_applied_le (keywords : Keywords ι) :
    countAll (applied keywords) ≤ countEntries keywords := by
  induction keywords with
  | nil => simp [applied, countAll]
  | cons entry rest ih =>
    obtain ⟨name, keyword⟩ := entry
    have := keyword.countAll_applied_le
    rw [applied, countAll_append, countEntries]
    split
    · omega
    · rw [countAll]
      omega

theorem Schema.count_pos (s : Schema ι) : 0 < s.count := by
  cases s with
  | bool value => exact Nat.one_pos
  | object mark keywords =>
    rw [count]
    omega

/-! ## Induction over applied schemas -/

mutual

theorem Keyword.sizeOf_applied {s : Schema ι} :
    ∀ keyword : Keyword ι, s ∈ keyword.applied → sizeOf s < sizeOf keyword
  | .schema t, h => by
    obtain rfl := List.mem_singleton.mp h
    simp
  | .list items, h => by
    have := sizeOf_appliedItems items h
    simp only [Keyword.list.sizeOf_spec]
    omega
  | .map entries, h => by
    have := sizeOf_appliedEntries entries h
    simp only [Keyword.map.sizeOf_spec]
    omega
  | .value _, h => by simp [Keyword.applied] at h

theorem sizeOf_appliedItems {s : Schema ι} :
    ∀ items : List (Keyword ι), s ∈ appliedItems items → sizeOf s < sizeOf items
  | [], h => by simp [appliedItems] at h
  | item :: rest, h => by
    simp only [List.cons.sizeOf_spec]
    rcases List.mem_append.mp h with h | h
    · have := item.sizeOf_applied h
      omega
    · have := sizeOf_appliedItems rest h
      omega

theorem sizeOf_appliedEntries {s : Schema ι} :
    ∀ entries : List (String × Keyword ι), s ∈ appliedEntries entries →
      sizeOf s < sizeOf entries
  | [], h => by simp [appliedEntries] at h
  | (name, entry) :: rest, h => by
    simp only [List.cons.sizeOf_spec, Prod.mk.sizeOf_spec]
    rcases List.mem_append.mp h with h | h
    · have := entry.sizeOf_applied h
      omega
    · have := sizeOf_appliedEntries rest h
      omega

end

theorem Keywords.sizeOf_applied {s : Schema ι} {keywords : Keywords ι}
    (h : s ∈ applied keywords) :
    sizeOf s < sizeOf keywords := by
  induction keywords with
  | nil => simp [applied] at h
  | cons entry rest ih =>
    obtain ⟨name, keyword⟩ := entry
    simp only [List.cons.sizeOf_spec, Prod.mk.sizeOf_spec]
    rcases List.mem_append.mp h with h | h
    · split at h
      · have := keyword.sizeOf_applied h
        omega
      · simp at h
    · have := ih h
      omega

/-- What holds of booleans, and of an object whenever it holds of the schemas the
object applies, holds of every schema. -/
theorem Schema.appliedInduction {P : Schema ι → Prop}
    (bool : ∀ value, P (.bool value))
    (object : ∀ mark keywords, (∀ s ∈ Keywords.applied keywords, P s) →
      P (.object mark keywords)) :
    ∀ schema, P schema
  | .bool value => bool value
  | .object mark keywords =>
    object mark keywords fun s _ => Schema.appliedInduction bool object s
termination_by schema => sizeOf schema
decreasing_by
  have := Keywords.sizeOf_applied ‹s ∈ Keywords.applied keywords›
  simp only [Schema.object.sizeOf_spec]
  omega

/-! ## Dereferencing in one pass -/

/-- What follows a pass over a list may count on a result for every item. -/
theorem mapM_bind_congr {m : Type → Type} [Monad m] [LawfulMonad m] {α β γ : Type}
    {f : α → m β} {k k' : List β → m γ} {xs : List α}
    (h : ∀ results, results.length = xs.length → k results = k' results) :
    xs.mapM f >>= k = xs.mapM f >>= k' := by
  induction xs generalizing k k' with
  | nil => simpa using h [] rfl
  | cons x xs ih =>
    simp only [List.mapM_cons, bind_assoc, pure_bind]
    exact bind_congr fun r => ih fun rs hrs => h (r :: rs) (by simp [hrs])

section

variable (setup : Setup) (hop : Option Hop)

mutual

theorem Keyword.derefWith_eq (scope : Scope) : ∀ keyword : Keyword NodeId,
    keyword.derefWith setup hop scope =
      keyword.refill <$> keyword.applied.mapM (Schema.derefWith setup hop scope)
  | .schema s => by simp [Keyword.derefWith, Keyword.applied, Keyword.refill]
  | .list items => by
    simp [Keyword.derefWith, Keyword.applied, Keyword.refill,
      derefItems_eq scope items]
  | .map entries => by
    simp [Keyword.derefWith, Keyword.applied, Keyword.refill,
      derefEntries_eq scope entries]
  | .value _ => by simp [Keyword.derefWith, Keyword.applied, Keyword.refill]

theorem derefItems_eq (scope : Scope) : ∀ items : List (Keyword NodeId),
    derefItems setup hop scope items =
      refillItems items <$> (appliedItems items).mapM
        (Schema.derefWith setup hop scope)
  | [] => by simp [derefItems, appliedItems, refillItems]
  | item :: rest => by
    simp only [derefItems, Execution.both_action, appliedItems, List.mapM_append,
      item.derefWith_eq scope, derefItems_eq scope rest, map_eq_pure_bind,
      bind_assoc, pure_bind]
    refine mapM_bind_congr fun front hf => bind_congr fun back => ?_
    rw [refillItems_cons hf]

theorem derefEntries_eq (scope : Scope) : ∀ entries : List (String × Keyword NodeId),
    derefEntries setup hop scope entries =
      refillEntries entries <$> (appliedEntries entries).mapM
        (Schema.derefWith setup hop scope)
  | [] => by simp [derefEntries, appliedEntries, refillEntries]
  | (name, entry) :: rest => by
    simp only [derefEntries, Execution.both_action, appliedEntries,
      List.mapM_append, entry.derefWith_eq scope, derefEntries_eq scope rest,
      map_eq_pure_bind, bind_assoc, pure_bind]
    refine mapM_bind_congr fun front hf => bind_congr fun back => ?_
    rw [refillEntries_cons hf]

end

/-- Dereferencing the keywords of an object is one pass over the schemas it applies. -/
theorem derefKeywords_eq (scope : Scope) (keywords : Keywords NodeId) :
    derefKeywords setup hop scope keywords =
      Keywords.refill keywords <$>
        (Keywords.applied keywords).mapM (Schema.derefWith setup hop scope) := by
  induction keywords with
  | nil => simp [derefKeywords, Keywords.applied, Keywords.refill]
  | cons entry rest ih =>
    obtain ⟨name, keyword⟩ := entry
    cases ha : (Shape.ofKeyword name).isApplicator with
    | true =>
      simp only [derefKeywords, Execution.both_action, ha, if_true,
        Keywords.applied_cons ha, List.mapM_append, keyword.derefWith_eq setup hop
          scope, ih, map_eq_pure_bind, bind_assoc, pure_bind]
      refine mapM_bind_congr fun front hf => bind_congr fun back => ?_
      rw [Keywords.refill_cons ha hf]
    | false =>
      simp only [derefKeywords, Execution.both_action, ha, Bool.false_eq_true,
        if_false, Keywords.applied_skip ha, ih, map_eq_pure_bind, bind_assoc,
        pure_bind, Keywords.refill_skip ha]

end

end SchemaDeref
