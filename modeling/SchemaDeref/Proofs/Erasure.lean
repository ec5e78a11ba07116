import SchemaDeref.Proofs.Renaming

/-!
# Forgetting marks

Forgetting the marks is one change of them, so reading a schema, applying it and
following a pointer in it commute with `erase`. Two schemas that erase to one
document are alike for all of these.
-/

namespace SchemaDeref

variable {ι : Type}

/-! ## Erasing -/

@[simp] theorem Schema.erase_bool (value : Bool) :
    (Schema.bool value : Schema ι).erase = .bool value := by
  simp [Schema.erase]

@[simp] theorem Schema.erase_object (mark : ι) (keywords : Keywords ι) :
    (Schema.object mark keywords).erase = .object () (eraseEntries keywords) := by
  simp [Schema.erase]

mutual

theorem Schema.erase_document : ∀ document : Document, document.erase = document
  | .bool _ => by rw [Schema.erase]
  | .object () keywords => by rw [Schema.erase, eraseEntries_document keywords]

theorem Keyword.erase_document : ∀ keyword : Keyword Unit, keyword.erase = keyword
  | .schema s => by rw [Keyword.erase, s.erase_document]
  | .list items => by rw [Keyword.erase, eraseItems_document items]
  | .map entries => by rw [Keyword.erase, eraseEntries_document entries]
  | .value _ => by rw [Keyword.erase]

theorem eraseItems_document : ∀ items : List (Keyword Unit), eraseItems items = items
  | [] => by rw [eraseItems]
  | item :: rest => by rw [eraseItems, item.erase_document, eraseItems_document rest]

theorem eraseEntries_document :
    ∀ entries : List (String × Keyword Unit), eraseEntries entries = entries
  | [] => by rw [eraseEntries]
  | (name, entry) :: rest => by
    rw [eraseEntries, entry.erase_document, eraseEntries_document rest]

end

mutual

/-- Marking a document does not change it. -/
theorem Schema.erase_mint :
    ∀ (schema : Schema ι) (next : NodeId), (schema.mint next).1.erase = schema.erase
  | .bool _, _ => by simp [Schema.mint]
  | .object _ keywords, next => by
    simp [Schema.mint, eraseEntries_mint keywords (next + 1)]

theorem Keyword.erase_mint :
    ∀ (keyword : Keyword ι) (next : NodeId), (keyword.mint next).1.erase =
      keyword.erase
  | .schema s, next => by simp [Keyword.mint, Keyword.erase, s.erase_mint next]
  | .list items, next => by
    simp [Keyword.mint, Keyword.erase, eraseItems_mint items next]
  | .map entries, next => by
    simp [Keyword.mint, Keyword.erase, eraseEntries_mint entries next]
  | .value _, _ => by simp [Keyword.mint, Keyword.erase]

theorem eraseItems_mint :
    ∀ (items : List (Keyword ι)) (next : NodeId),
      eraseItems (mintItems next items).1 = eraseItems items
  | [], _ => by simp [mintItems, eraseItems]
  | item :: rest, next => by
    simp [mintItems, eraseItems, item.erase_mint next, eraseItems_mint rest]

theorem eraseEntries_mint :
    ∀ (entries : List (String × Keyword ι)) (next : NodeId),
      eraseEntries (mintEntries next entries).1 = eraseEntries entries
  | [], _ => by simp [mintEntries, eraseEntries]
  | (name, entry) :: rest, next => by
    simp [mintEntries, eraseEntries, entry.erase_mint next, eraseEntries_mint rest]

end

/-! ## Applied schemas -/

theorem Keywords.applied_erase (keywords : Keywords ι) :
    applied (eraseEntries keywords) = (applied keywords).map Schema.erase := by
  rw [eraseEntries_eq_rename, applied_rename]
  exact List.map_congr_left fun s _ => s.erase_eq_rename.symm

theorem Keywords.erase_refill (keywords : Keywords ι) (news : List (Schema ι)) :
    eraseEntries (refill keywords news) = refill (eraseEntries keywords)
      (news.map Schema.erase) := by
  rw [eraseEntries_eq_rename, eraseEntries_eq_rename, rename_refill]
  exact congrArg _ (List.map_congr_left fun s _ => s.erase_eq_rename.symm)

/-! ## Reading keywords -/

namespace Keywords

@[simp] theorem string?_erase (keywords : Keywords ι) (name : String) :
    string? (eraseEntries keywords) name = string? keywords name := by
  simp [eraseEntries_eq_rename]

@[simp] theorem hasRecursiveAnchor_erase (keywords : Keywords ι) :
    hasRecursiveAnchor (eraseEntries keywords) = hasRecursiveAnchor keywords := by
  simp [eraseEntries_eq_rename]

@[simp] theorem dynamicAnchor?_erase (keywords : Keywords ι) :
    dynamicAnchor? (eraseEntries keywords) = dynamicAnchor? keywords :=
  string?_erase keywords _

@[simp] theorem hasAnchor_erase (keywords : Keywords ι) (name : String) :
    hasAnchor (eraseEntries keywords) name = hasAnchor keywords name := by
  simp [eraseEntries_eq_rename]

@[simp] theorem reference?_erase (keywords : Keywords ι) :
    reference? (eraseEntries keywords) = reference? keywords := by
  simp [eraseEntries_eq_rename]

@[simp] theorem baseWithin_erase (base : Option String) (keywords : Keywords ι) :
    baseWithin base (eraseEntries keywords) = baseWithin base keywords := by
  simp [eraseEntries_eq_rename]

theorem siblings_erase (keywords : Keywords ι) :
    siblings (eraseEntries keywords) = eraseEntries (siblings keywords) := by
  simp only [eraseEntries_eq_rename, siblings_rename]

@[simp] theorem isEmpty_erase (keywords : Keywords ι) :
    (eraseEntries keywords).isEmpty = keywords.isEmpty := by
  simp [eraseEntries_eq_rename]

end Keywords

/-! ## Laying keywords over others -/

theorem Members.overwrite_erase (keywords upper : Keywords ι) :
    eraseEntries (Members.overwrite keywords upper) =
      Members.overwrite (eraseEntries keywords) (eraseEntries upper) := by
  simp only [eraseEntries_eq_rename, overwrite_rename]

/-- Keywords laid over a schema. Nothing is laid over `false`, and `true` gives way. -/
def Schema.overlaid (target : Document) (upper : Keywords Unit) : Document :=
  if upper.isEmpty then target
  else
    match target with
    | .bool false => .bool false
    | .bool true => .object () upper
    | .object _ keywords => .object () (Members.overwrite keywords upper)

/-! ## Following pointers -/

/-- The document a landing stands for. -/
def Landing.erase : Landing ι → Document
  | .found schema => schema.erase
  | .reread document => document

theorem Landing.erase_rename {κ : Type} (f : ι → κ) (landing : Landing ι) :
    (landing.rename f).erase = landing.erase := by
  cases landing with
  | found schema => exact schema.erase_rename f
  | reread document => rfl

theorem Schema.toJson_erase (schema : Schema ι) :
    schema.erase.toJson = schema.toJson := by
  rw [schema.erase_eq_rename, schema.toJson_rename]

/-- Following a pointer ends at one document, with or without marks. -/
theorem Schema.follow_erase (schema : Schema ι) (pointer : String) :
    (schema.erase.follow pointer).map Landing.erase =
      (schema.follow pointer).map Landing.erase := by
  rw [schema.erase_eq_rename, schema.follow_rename]
  cases schema.follow pointer with
  | ok landing => exact congrArg Except.ok (landing.erase_rename _)
  | error error => rfl

end SchemaDeref
