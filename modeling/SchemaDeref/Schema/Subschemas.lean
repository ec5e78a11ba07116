import SchemaDeref.Pointer.Token
import SchemaDeref.Schema.Keywords

/-!
# Subschemas

The schemas one level below an object: those its applicators and containers hold,
through any nesting of lists and maps, in the order of names, positions and entries.
Each comes with the pointer that leads to it.
-/

namespace SchemaDeref

variable {ι : Type}

structure Subschema (ι : Type) where
  /-- The keyword the schema stands under. -/
  keyword : String
  /-- The pointer from the object, without a slash in front. -/
  pointer : String
  schema : Schema ι

/-! ## Collecting -/

mutual

def Keyword.subschemas (name pointer : String) : Keyword ι → List (Subschema ι)
  | .schema s => [⟨name, pointer, s⟩]
  | .list items => subschemasOfItems name pointer 0 items
  | .map entries => subschemasOfEntries name pointer entries
  | .value _ => []

/-- The schemas in a list, whose items are numbered from `start` on. -/
def subschemasOfItems (name pointer : String) (start : Nat) :
    List (Keyword ι) → List (Subschema ι)
  | [] => []
  | item :: rest =>
    item.subschemas name (pointer ++ "/" ++ toString start) ++
      subschemasOfItems name pointer (start + 1) rest

def subschemasOfEntries (name pointer : String) :
    List (String × Keyword ι) → List (Subschema ι)
  | [] => []
  | (key, entry) :: rest =>
    entry.subschemas name (pointer ++ "/" ++ Pointer.escape key) ++
      subschemasOfEntries name pointer rest

end

namespace Keywords

/-- The subschemas of an object. Keywords the vocabulary does not have are not
looked into. -/
def subschemas (keywords : Keywords ι) : List (Subschema ι) :=
  keywords.flatMap fun (name, keyword) =>
    if Shape.ofKeyword name = .value then []
    else keyword.subschemas name (Pointer.escape name)

end Keywords

/-- The subschemas of a schema; a boolean has none. -/
def Schema.subschemas : Schema ι → List (Subschema ι)
  | .bool _ => []
  | .object _ keywords => Keywords.subschemas keywords

/-! ## Size -/

mutual

/-- The number of schemas in a schema, itself included. -/
def Schema.count : Schema ι → Nat
  | .bool _ => 1
  | .object _ keywords => 1 + countEntries keywords

def Keyword.count : Keyword ι → Nat
  | .schema s => s.count
  | .list items => countItems items
  | .map entries => countEntries entries
  | .value _ => 0

def countItems : List (Keyword ι) → Nat
  | [] => 0
  | item :: rest => item.count + countItems rest

def countEntries : List (String × Keyword ι) → Nat
  | [] => 0
  | (_, keyword) :: rest => keyword.count + countEntries rest

end

/-- The number of schemas in a list of schemas. -/
def countAll : List (Schema ι) → Nat
  | [] => 0
  | schema :: rest => schema.count + countAll rest

@[simp] theorem countAll_append (xs ys : List (Schema ι)) :
    countAll (xs ++ ys) = countAll xs + countAll ys := by
  induction xs with
  | nil => simp [countAll]
  | cons x xs ih => simp only [List.cons_append, countAll, ih]; omega

/-- The number of schemas in a list of subschemas. -/
def countSubschemas (subs : List (Subschema ι)) : Nat :=
  countAll (subs.map Subschema.schema)

@[simp] theorem countSubschemas_append (xs ys : List (Subschema ι)) :
    countSubschemas (xs ++ ys) = countSubschemas xs + countSubschemas ys := by
  simp [countSubschemas]

mutual

theorem Keyword.countSubschemas_le (name pointer : String) :
    ∀ keyword : Keyword ι, countSubschemas (keyword.subschemas name pointer) ≤
      keyword.count
  | .schema s => by
    simp [Keyword.subschemas, Keyword.count, countSubschemas, countAll]
  | .list items => by
    simpa only [Keyword.subschemas, Keyword.count] using
      countSubschemasOfItems_le name pointer 0 items
  | .map entries => by
    simpa only [Keyword.subschemas, Keyword.count] using
      countSubschemasOfEntries_le name pointer entries
  | .value _ => by simp [Keyword.subschemas, Keyword.count, countSubschemas, countAll]

theorem countSubschemasOfItems_le (name pointer : String) (start : Nat) :
    ∀ items : List (Keyword ι),
      countSubschemas (subschemasOfItems name pointer start items) ≤ countItems items
  | [] => by simp [subschemasOfItems, countItems, countSubschemas, countAll]
  | item :: rest => by
    have h := item.countSubschemas_le name (pointer ++ "/" ++ toString start)
    have hs := countSubschemasOfItems_le name pointer (start + 1) rest
    simp only [subschemasOfItems, countSubschemas_append, countItems]
    omega

theorem countSubschemasOfEntries_le (name pointer : String) :
    ∀ entries : List (String × Keyword ι),
      countSubschemas (subschemasOfEntries name pointer entries) ≤
        countEntries entries
  | [] => by simp [subschemasOfEntries, countEntries, countSubschemas, countAll]
  | (key, entry) :: rest => by
    have h := entry.countSubschemas_le name (pointer ++ "/" ++ Pointer.escape key)
    have hs := countSubschemasOfEntries_le name pointer rest
    simp only [subschemasOfEntries, countSubschemas_append, countEntries]
    omega

end

theorem Keywords.countSubschemas_le (keywords : Keywords ι) :
    countSubschemas (Keywords.subschemas keywords) ≤ countEntries keywords := by
  induction keywords with
  | nil => simp [Keywords.subschemas, countEntries, countSubschemas, countAll]
  | cons entry rest ih =>
    obtain ⟨name, keyword⟩ := entry
    have h := keyword.countSubschemas_le name (Pointer.escape name)
    simp only [Keywords.subschemas, List.flatMap_cons, countSubschemas_append,
      countEntries] at ih ⊢
    split <;> simp_all [countSubschemas, countAll] <;> omega

/-- The subschemas of a schema hold fewer schemas than it does. -/
theorem Schema.countSubschemas_lt (schema : Schema ι) :
    countSubschemas schema.subschemas < schema.count := by
  cases schema with
  | bool _ => simp [Schema.subschemas, Schema.count, countSubschemas, countAll]
  | object mark keywords =>
    have := Keywords.countSubschemas_le keywords
    simp only [Schema.subschemas, Schema.count]
    omega

end SchemaDeref
