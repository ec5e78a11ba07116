import SchemaDeref.Proofs.Applied

/-!
# Other marks

Reading a schema, applying it and following a pointer in it never look at marks:
each operation commutes with a change of all marks (`Schema.rename`). Forgetting the
marks is one such change.
-/

namespace SchemaDeref

variable {ι κ : Type}

/-! ## Renaming -/

mutual

/-- A schema with other marks. -/
def Schema.rename (f : ι → κ) : Schema ι → Schema κ
  | .bool value => .bool value
  | .object mark keywords => .object (f mark) (renameEntries f keywords)

def Keyword.rename (f : ι → κ) : Keyword ι → Keyword κ
  | .schema schema => .schema (schema.rename f)
  | .list items => .list (renameItems f items)
  | .map entries => .map (renameEntries f entries)
  | .value data => .value data

def renameItems (f : ι → κ) : List (Keyword ι) → List (Keyword κ)
  | [] => []
  | item :: rest => item.rename f :: renameItems f rest

def renameEntries (f : ι → κ) : List (String × Keyword ι) → List (String × Keyword κ)
  | [] => []
  | (name, keyword) :: rest => (name, keyword.rename f) :: renameEntries f rest

end

section

variable (f : ι → κ)

theorem renameItems_eq_map (items : List (Keyword ι)) :
    renameItems f items = items.map (Keyword.rename f) := by
  induction items with
  | nil => rfl
  | cons item rest ih => simp [renameItems, ih]

theorem renameEntries_eq_map (entries : List (String × Keyword ι)) :
    renameEntries f entries = entries.map fun (name, keyword) =>
      (name, keyword.rename f) := by
  induction entries with
  | nil => rfl
  | cons entry rest ih => simp [renameEntries, ih]

@[simp] theorem Schema.rename_bool (value : Bool) :
    (Schema.bool value : Schema ι).rename f = .bool value := by
  simp [Schema.rename]

@[simp] theorem Schema.rename_object (mark : ι) (keywords : Keywords ι) :
    (Schema.object mark keywords).rename f =
      .object (f mark) (renameEntries f keywords) := by
  simp [Schema.rename]

mutual

/-- Forgetting the marks is giving every object the same one. -/
theorem Schema.erase_eq_rename :
    ∀ schema : Schema ι, schema.erase = schema.rename fun _ => ()
  | .bool _ => by rw [Schema.erase, Schema.rename]
  | .object _ keywords => by
    rw [Schema.erase, Schema.rename, eraseEntries_eq_rename keywords]

theorem Keyword.erase_eq_rename :
    ∀ keyword : Keyword ι, keyword.erase = keyword.rename fun _ => ()
  | .schema s => by rw [Keyword.erase, Keyword.rename, s.erase_eq_rename]
  | .list items => by rw [Keyword.erase, Keyword.rename, eraseItems_eq_rename items]
  | .map entries => by
    rw [Keyword.erase, Keyword.rename, eraseEntries_eq_rename entries]
  | .value _ => by rw [Keyword.erase, Keyword.rename]

theorem eraseItems_eq_rename :
    ∀ items : List (Keyword ι), eraseItems items = renameItems (fun _ => ()) items
  | [] => by rw [eraseItems, renameItems]
  | item :: rest => by
    rw [eraseItems, renameItems, item.erase_eq_rename, eraseItems_eq_rename rest]

theorem eraseEntries_eq_rename : ∀ entries : List (String × Keyword ι),
    eraseEntries entries = renameEntries (fun _ => ()) entries
  | [] => by rw [eraseEntries, renameEntries]
  | (name, entry) :: rest => by
    rw [eraseEntries, renameEntries, entry.erase_eq_rename,
      eraseEntries_eq_rename rest]

end

mutual

/-- What the marks were before makes no difference once they are forgotten. -/
theorem Schema.erase_rename :
    ∀ schema : Schema ι, (schema.rename f).erase = schema.erase
  | .bool _ => by simp only [Schema.rename, Schema.erase]
  | .object _ keywords => by
    simp only [Schema.rename, Schema.erase, eraseEntries_rename keywords]

theorem Keyword.erase_rename :
    ∀ keyword : Keyword ι, (keyword.rename f).erase = keyword.erase
  | .schema s => by simp only [Keyword.rename, Keyword.erase, s.erase_rename]
  | .list items => by
    simp only [Keyword.rename, Keyword.erase, eraseItems_rename items]
  | .map entries => by
    simp only [Keyword.rename, Keyword.erase, eraseEntries_rename entries]
  | .value _ => by simp only [Keyword.rename, Keyword.erase]

theorem eraseItems_rename :
    ∀ items : List (Keyword ι), eraseItems (renameItems f items) = eraseItems items
  | [] => by simp only [renameItems, eraseItems]
  | item :: rest => by
    simp only [renameItems, eraseItems, item.erase_rename, eraseItems_rename rest]

theorem eraseEntries_rename : ∀ entries : List (String × Keyword ι),
    eraseEntries (renameEntries f entries) = eraseEntries entries
  | [] => by simp only [renameEntries, eraseEntries]
  | (_, entry) :: rest => by
    simp only [renameEntries, eraseEntries, entry.erase_rename,
      eraseEntries_rename rest]

end

/-! ## Applied schemas -/

mutual

theorem Keyword.applied_rename : ∀ keyword : Keyword ι,
    (keyword.rename f).applied = keyword.applied.map (Schema.rename f)
  | .schema s => by simp [Keyword.rename, Keyword.applied]
  | .list items => by
    simp only [Keyword.rename, Keyword.applied, appliedItems_rename items]
  | .map entries => by
    simp only [Keyword.rename, Keyword.applied, appliedEntries_rename entries]
  | .value _ => by simp [Keyword.rename, Keyword.applied]

theorem appliedItems_rename : ∀ items : List (Keyword ι),
    appliedItems (renameItems f items) = (appliedItems items).map (Schema.rename f)
  | [] => by simp [renameItems, appliedItems]
  | item :: rest => by
    simp only [renameItems, appliedItems, item.applied_rename,
      appliedItems_rename rest, List.map_append]

theorem appliedEntries_rename : ∀ entries : List (String × Keyword ι),
    appliedEntries (renameEntries f entries) = (appliedEntries entries).map
      (Schema.rename f)
  | [] => by simp [renameEntries, appliedEntries]
  | (name, entry) :: rest => by
    simp only [renameEntries, appliedEntries, entry.applied_rename,
      appliedEntries_rename rest, List.map_append]

end

theorem Keywords.applied_rename (keywords : Keywords ι) :
    applied (renameEntries f keywords) = (applied keywords).map
      (Schema.rename f) := by
  induction keywords with
  | nil => rfl
  | cons entry rest ih =>
    obtain ⟨name, keyword⟩ := entry
    cases ha : (Shape.ofKeyword name).isApplicator with
    | true =>
      rw [renameEntries, applied_cons ha, applied_cons ha, keyword.applied_rename, ih,
        List.map_append]
    | false => rw [renameEntries, applied_skip ha, applied_skip ha, ih]

mutual

theorem Keyword.rename_refill : ∀ (keyword : Keyword ι) (news : List (Schema ι)),
    (keyword.refill news).rename f = (keyword.rename f).refill
      (news.map (Schema.rename f))
  | .schema s, news => by cases news <;> simp [Keyword.rename, Keyword.refill]
  | .list items, news => by
    simp only [Keyword.rename, Keyword.refill, renameItems_refill items news]
  | .map entries, news => by
    simp only [Keyword.rename, Keyword.refill, renameEntries_refill entries news]
  | .value _, _ => by simp [Keyword.rename, Keyword.refill]

theorem renameItems_refill : ∀ (items : List (Keyword ι)) (news : List (Schema ι)),
    renameItems f (refillItems items news) =
      refillItems (renameItems f items) (news.map (Schema.rename f))
  | [], _ => by simp [renameItems, refillItems]
  | item :: rest, news => by
    simp only [renameItems, refillItems, item.rename_refill news,
      renameItems_refill rest, item.applied_rename, List.length_map, List.map_drop]

theorem renameEntries_refill :
    ∀ (entries : List (String × Keyword ι)) (news : List (Schema ι)),
    renameEntries f (refillEntries entries news) =
      refillEntries (renameEntries f entries) (news.map (Schema.rename f))
  | [], _ => by simp [renameEntries, refillEntries]
  | (name, entry) :: rest, news => by
    simp only [renameEntries, refillEntries, entry.rename_refill news,
      renameEntries_refill rest, entry.applied_rename, List.length_map, List.map_drop]

end

theorem Keywords.rename_refill (keywords : Keywords ι) (news : List (Schema ι)) :
    renameEntries f (refill keywords news) =
      refill (renameEntries f keywords) (news.map (Schema.rename f)) := by
  induction keywords generalizing news with
  | nil => simp [renameEntries, refill]
  | cons entry rest ih =>
    obtain ⟨name, keyword⟩ := entry
    cases ha : (Shape.ofKeyword name).isApplicator with
    | true =>
      simp only [refill, renameEntries, ha, if_true, ih, keyword.rename_refill,
        keyword.applied_rename, List.length_map, List.map_drop]
    | false => simp only [refill_skip ha, renameEntries, ih]

/-! ## Reading keywords -/

theorem Members.get?_rename (name : String) (keywords : Keywords ι) :
    Members.get? name (renameEntries f keywords) =
      (Members.get? name keywords).map (Keyword.rename f) := by
  induction keywords with
  | nil => rfl
  | cons entry rest ih =>
    obtain ⟨n, keyword⟩ := entry
    simp only [renameEntries, Members.get?]
    by_cases h : n = name
    · simp [h]
    · simp [h, ih]

namespace Keywords

@[simp] theorem string?_rename (keywords : Keywords ι) (name : String) :
    string? (renameEntries f keywords) name = string? keywords name := by
  simp only [string?, Members.get?_rename]
  cases Members.get? name keywords with
  | none => rfl
  | some keyword =>
    cases keyword with
    | schema | list | map => simp [Keyword.rename]
    | value data =>
      simp only [Option.map_some, Keyword.rename]
      cases data <;> rfl

@[simp] theorem hasRecursiveAnchor_rename (keywords : Keywords ι) :
    hasRecursiveAnchor (renameEntries f keywords) = hasRecursiveAnchor keywords := by
  simp only [hasRecursiveAnchor, Members.get?_rename]
  cases Members.get? Vocabulary.recursiveAnchor keywords with
  | none => rfl
  | some keyword =>
    cases keyword with
    | schema | list | map => simp [Keyword.rename]
    | value data =>
      simp only [Option.map_some, Keyword.rename]
      cases data with
      | bool b => cases b <;> rfl
      | null | num | str | arr | obj => rfl

@[simp] theorem dynamicAnchor?_rename (keywords : Keywords ι) :
    dynamicAnchor? (renameEntries f keywords) = dynamicAnchor? keywords :=
  string?_rename f keywords _

@[simp] theorem id?_rename (keywords : Keywords ι) :
    id? (renameEntries f keywords) = id? keywords :=
  string?_rename f keywords _

@[simp] theorem hasAnchor_rename (keywords : Keywords ι) (name : String) :
    hasAnchor (renameEntries f keywords) name = hasAnchor keywords name := by
  simp [hasAnchor, anchor?]

@[simp] theorem reference?_rename (keywords : Keywords ι) :
    reference? (renameEntries f keywords) = reference? keywords := by
  simp [reference?]

@[simp] theorem referenceKinds_rename (keywords : Keywords ι) :
    referenceKinds (renameEntries f keywords) = referenceKinds keywords := by
  simp [referenceKinds]

@[simp] theorem baseWithin_rename (base : Option String) (keywords : Keywords ι) :
    baseWithin base (renameEntries f keywords) = baseWithin base keywords := by
  simp [baseWithin, id?]

theorem siblings_rename (keywords : Keywords ι) :
    siblings (renameEntries f keywords) = renameEntries f (siblings keywords) := by
  simp only [siblings, renameEntries_eq_map, List.filter_map]
  rfl

@[simp] theorem isEmpty_rename (keywords : Keywords ι) :
    (renameEntries f keywords).isEmpty = keywords.isEmpty := by
  rw [renameEntries_eq_map, List.isEmpty_map]

end Keywords

/-! ## Laying keywords over others -/

theorem Members.insert_rename (name : String) (keyword : Keyword ι)
    (keywords : Keywords ι) :
    renameEntries f (Members.insert name keyword keywords) =
      Members.insert name (keyword.rename f) (renameEntries f keywords) := by
  induction keywords with
  | nil => rfl
  | cons entry rest ih =>
    obtain ⟨n, old⟩ := entry
    simp only [Members.insert, renameEntries]
    split
    · simp [renameEntries]
    · split
      · simp [renameEntries]
      · simp [renameEntries, ih]

theorem Members.overwrite_rename (keywords upper : Keywords ι) :
    renameEntries f (Members.overwrite keywords upper) =
      Members.overwrite (renameEntries f keywords) (renameEntries f upper) := by
  induction upper generalizing keywords with
  | nil => rfl
  | cons entry rest ih =>
    obtain ⟨n, keyword⟩ := entry
    simp only [Members.overwrite, List.foldl_cons, renameEntries] at ih ⊢
    rw [ih, Members.insert_rename]

/-! ## Following pointers -/

/-- A landing with other marks; a schema that was read anew has none. -/
def Landing.rename : Landing ι → Landing κ
  | .found schema => .found (schema.rename f)
  | .reread document => .reread document

mutual

theorem Schema.toJson_rename :
    ∀ schema : Schema ι, (schema.rename f).toJson = schema.toJson
  | .bool _ => by simp [Schema.toJson]
  | .object _ keywords => by simp [Schema.toJson, entriesToJson_rename keywords]

theorem Keyword.toJson_rename :
    ∀ keyword : Keyword ι, (keyword.rename f).toJson = keyword.toJson
  | .schema s => by simp [Keyword.rename, Keyword.toJson, s.toJson_rename]
  | .list items => by simp [Keyword.rename, Keyword.toJson, itemsToJson_rename items]
  | .map entries => by
    simp [Keyword.rename, Keyword.toJson, entriesToJson_rename entries]
  | .value _ => by simp [Keyword.rename, Keyword.toJson]

theorem itemsToJson_rename :
    ∀ items : List (Keyword ι), itemsToJson (renameItems f items) = itemsToJson items
  | [] => rfl
  | item :: rest => by
    simp [renameItems, itemsToJson, item.toJson_rename, itemsToJson_rename rest]

theorem entriesToJson_rename : ∀ entries : List (String × Keyword ι),
    entriesToJson (renameEntries f entries) = entriesToJson entries
  | [] => rfl
  | (name, entry) :: rest => by
    simp [renameEntries, entriesToJson, entry.toJson_rename,
      entriesToJson_rename rest]

end

namespace Keyword

theorem step_rename (token : String) (place : Keyword ι) :
    (place.rename f).step token = (place.step token).map (Keyword.rename f) := by
  cases place with
  | schema s =>
    cases s with
    | bool b => simp [Keyword.rename, step, Except.map]
    | object mark keywords =>
      simp only [Keyword.rename, Schema.rename, step, Members.get?_rename]
      cases Members.get? token keywords <;> rfl
  | list items =>
    simp only [Keyword.rename, step, renameItems_eq_map, item?]
    cases Pointer.index? token with
    | none => rfl
    | some i =>
      simp only [Option.bind_eq_bind, Option.bind_some, List.getElem?_map]
      cases items[i]? <;> rfl
  | map entries =>
    simp only [Keyword.rename, step, Members.get?_rename]
    cases Members.get? token entries <;> rfl
  | value data =>
    rw [Keyword.rename]
    cases data with
    | obj members =>
      simp only [step]
      cases Members.get? token members with
      | none => rfl
      | some value => simp [orMissing, Except.map, Keyword.rename]
    | arr items =>
      simp only [step]
      cases item? items token with
      | none => rfl
      | some value => simp [orMissing, Except.map, Keyword.rename]
    | null | bool | num | str => rfl

theorem walk_rename (pointer : String) (tokens : List String) (place : Keyword ι) :
    walk pointer tokens (place.rename f) = (walk pointer tokens place).map
      (Keyword.rename f) := by
  induction tokens generalizing place with
  | nil => rfl
  | cons token rest ih =>
    simp only [walk, step_rename]
    cases place.step token with
    | ok next => simpa [Except.map] using ih next
    | error fault => cases fault <;> rfl

theorem land_rename (pointer : String) (place : Keyword ι) :
    (place.rename f).land pointer = (place.land pointer).map (Landing.rename f) := by
  have hjson := place.toJson_rename f
  cases place with
  | schema s => rfl
  | list | map | value =>
    simp only [Keyword.rename, land] at hjson ⊢
    rw [hjson]
    split <;> rfl

end Keyword

/-- A pointer leads to the same place whatever the marks are. -/
theorem Schema.follow_rename (schema : Schema ι) (pointer : String) :
    (schema.rename f).follow pointer = (schema.follow pointer).map
      (Landing.rename f) := by
  simp only [Schema.follow]
  split
  · rfl
  · have hwalk :=
      Keyword.walk_rename f pointer (Pointer.tokens pointer) (.schema schema)
    rw [Keyword.rename] at hwalk
    rw [hwalk]
    cases Keyword.walk pointer (Pointer.tokens pointer) (.schema schema) with
    | ok place => exact place.land_rename f pointer
    | error error => rfl

end

end SchemaDeref
