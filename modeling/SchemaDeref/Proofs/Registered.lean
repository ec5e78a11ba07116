import SchemaDeref.Proofs.Bases

/-!
# What is registered

The inventory of a document: itself under its name, and then every object inside it
with an identifier, in the order they are written, each under its identifier joined
with the name of the nearest one around it (`Schema.inventory`). It is told here by
the places of the document, with the schemas around each, and not by the way that
registering goes. Registering files just the inventory: a name that was taken keeps
its document, and any other goes to the first of the inventory that has it
(`register_files`).
-/

namespace SchemaDeref

variable {ι : Type}

/-! ## Places inside a document -/

theorem count_le_countAll {s : Schema ι} {schemas : List (Schema ι)}
    (h : s ∈ schemas) :
    s.count ≤ countAll schemas := by
  induction schemas with
  | nil => exact absurd h List.not_mem_nil
  | cons first rest ih =>
    rw [countAll]
    rcases List.mem_cons.mp h with rfl | h
    · omega
    · have := ih h
      omega

/-- A subschema is smaller than the schema it is one of. -/
theorem Schema.count_lt_of_mem_subschemas {schema : Schema ι} {sub : Subschema ι}
    (h : sub ∈ schema.subschemas) : sub.schema.count < schema.count := by
  have hle : sub.schema.count ≤ countAll (schema.subschemas.map Subschema.schema) :=
    count_le_countAll (List.mem_map_of_mem h)
  have hlt := schema.countSubschemas_lt
  rw [countSubschemas] at hlt
  omega

/-- A schema inside a document. -/
structure Occurrence (ι : Type) where
  schema : Schema ι
  /-- The schemas around it inside the document, innermost first. -/
  around : List (Schema ι)

/-- A schema that stands inside others and all that it holds, at any depth, each
before what is in it. -/
def Schema.occurrences (around : List (Schema ι))
    (schema : Schema ι) : List (Occurrence ι) :=
  ⟨schema, around⟩ :: schema.subschemas.attach.flatMap fun sub =>
    sub.val.schema.occurrences (schema :: around)
termination_by schema.count
decreasing_by exact Schema.count_lt_of_mem_subschemas sub.property

theorem Schema.occurrences_eq (around : List (Schema ι)) (schema : Schema ι) :
    schema.occurrences around =
      ⟨schema, around⟩ :: schema.subschemas.flatMap fun sub =>
        sub.schema.occurrences (schema :: around) := by
  rw [occurrences]
  simp only [List.flatMap_subtype, List.unattach_attach]

/-! ## The inventory -/

def Schema.id? (schema : Schema ι) : Option String :=
  schema.keywords? >>= Keywords.id?

/-- The name of the nearest of these schemas, innermost first, that has an
identifier; of the document they stand in, if none of them has. -/
def nearestName (name : String) : List (Schema ι) → String
  | [] => name
  | schema :: around =>
    match schema.id? with
    | some id => Uri.joinName (some (nearestName name around)) id
    | none => nearestName name around

/-- What is filed for a schema inside a document. -/
def Occurrence.entry? (name : String)
    (occurrence : Occurrence ι) : Option (String × Schema ι) :=
  occurrence.schema.id?.map fun id =>
    (Uri.joinName (some (nearestName name occurrence.around)) id, occurrence.schema)

/-- A document and the objects inside it that have identifiers, with their names. -/
def Schema.inventory (document : Schema ι)
    (name : String) : List (String × Schema ι) :=
  (name, document) :: (document.subschemas.flatMap fun sub =>
    sub.schema.occurrences []).filterMap (Occurrence.entry? name)

/-- Below a schema the inventory has the resources that registering finds there. -/
theorem Schema.filterMap_occurrences (name : String) (around : List (Schema ι))
    (schema : Schema ι) :
    (schema.occurrences around).filterMap (Occurrence.entry? name) =
      schema.resources (nearestName name around) := by
  induction h : schema.count using Nat.strongRecOn generalizing schema around with
  | ind count ih =>
    subst h
    -- the subschemas stand inside this schema, so its identifier counts for their
    -- names
    have hinside : (schema.subschemas.flatMap fun sub =>
          sub.schema.occurrences (schema :: around)).filterMap
            (Occurrence.entry? name) =
        schema.subschemas.flatMap fun sub =>
          sub.schema.resources (nearestName name (schema :: around)) := by
      rw [List.filterMap_flatMap]
      refine List.flatMap_congr fun sub hsub => ?_
      exact ih _ (Schema.count_lt_of_mem_subschemas hsub) _ sub.schema rfl
    rw [Schema.occurrences_eq, List.filterMap_cons, hinside]
    cases schema with
    | bool value => rfl
    | object mark keywords =>
      rw [Schema.resources]
      cases hid : Keywords.id? keywords with
      | none =>
        have hnone : Schema.id? (.object mark keywords) = none := hid
        simp only [Occurrence.entry?, hnone, Option.map_none, nearestName,
          resourcesIn_eq]
        rfl
      | some id =>
        have hsome : Schema.id? (.object mark keywords) = some id := hid
        simp only [Occurrence.entry?, hsome, Option.map_some, nearestName,
          resourcesIn_eq]
        rfl

theorem Schema.inventory_eq_named (document : Schema ι) (name : String) :
    document.inventory name = document.named name := by
  rw [inventory, named, List.filterMap_flatMap]
  congr 1
  have hsubs : (document.subschemas.flatMap fun sub =>
      (sub.schema.occurrences []).filterMap (Occurrence.entry? name)) =
        document.subschemas.flatMap fun sub => sub.schema.resources name :=
    List.flatMap_congr fun sub _ => sub.schema.filterMap_occurrences name []
  rw [hsubs]
  cases document with
  | bool value => rfl
  | object mark keywords => exact (resourcesIn_eq name keywords).symm

/-! ## Filing -/

namespace Catalog

theorem get?_add_eq (catalog : Catalog ι) (name : String) (schema : Schema ι)
    (uri : String) :
    (catalog.add name schema).get? uri =
      (catalog.get? uri).or
        (if Uri.resourceName name = Uri.resourceName uri then some schema
        else none) := by
  by_cases hname : Uri.resourceName name = Uri.resourceName uri
  · have hsame : ∀ c : Catalog ι, c.get? uri = c.get? name :=
      fun c => by rw [get?, get?, hname]
    rw [if_pos hname, hsame, hsame]
    cases hget : catalog.get? name with
    | some old =>
      rw [within_add catalog name schema name old hget]
      rfl
    | none =>
      rw [get?_add (by rw [contains, hget]; rfl) schema]
      rfl
  · have hother : (catalog.add name schema).get? uri = catalog.get? uri :=
      get?_add_other (Ne.symm hname) schema
    rw [if_neg hname, hother, Option.or_none]

/-- Of documents that are added one after the other, the first under a name stays. -/
theorem get?_addAll (catalog : Catalog ι) (resources : List (String × Schema ι))
    (uri : String) :
    (catalog.addAll resources).get? uri =
      (catalog.get? uri).or ((resources.find? fun resource =>
        Uri.resourceName resource.1 = Uri.resourceName uri).map Prod.snd) := by
  induction resources generalizing catalog with
  | nil => rw [addAll_nil, List.find?_nil, Option.map_none, Option.or_none]
  | cons resource rest ih =>
    rw [addAll_cons, ih, get?_add_eq, Option.or_assoc, List.find?_cons]
    by_cases hname : Uri.resourceName resource.1 = Uri.resourceName uri
    · simp [hname]
    · simp [hname]

end Catalog

/-- Registering a document under a URI, or else under its own identifier, names it
by what that reads as, and files its inventory: a URI whose name was taken is found
as before, any other as the first of the inventory with its name, and nothing else
is new. With neither there is no name, and the catalog stays as it is. -/
theorem register_files (catalog : Catalog ι) (document : Schema ι)
    (uri : Option String) :
    match uri <|> document.id? with
    | none => Catalog.nameFor? document uri = none ∧
      catalog.register document uri = catalog
    | some given =>
      Catalog.nameFor? document uri =
          (document.inventory (Uri.joinName none given)).head?.map Prod.fst ∧
        ∀ other, (catalog.register document uri).get? other =
          (catalog.get? other).or
            (((document.inventory (Uri.joinName none given)).find? fun entry =>
            Uri.resourceName entry.1 = Uri.resourceName other).map Prod.snd) := by
  have hname : Catalog.nameFor? document uri = (uri <|> document.id?).map
      (Uri.joinName none) := rfl
  rw [Catalog.register_eq, hname]
  cases uri <|> document.id? with
  | none => exact ⟨rfl, rfl⟩
  | some given =>
    refine ⟨rfl, fun other => ?_⟩
    rw [document.inventory_eq_named]
    exact catalog.get?_addAll _ other

end SchemaDeref
