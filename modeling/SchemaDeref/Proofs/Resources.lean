import SchemaDeref.Proofs.Ways
import SchemaDeref.Proofs.Bases

/-!
# Registered resources

Registering a document and walking it compute the bases of the schemas in it apart
from each other. The one starts from the name of the document, the other enters its
root with the base it comes with, and so takes the identifier of the root into
account. They come together at the outermost identifier on the way to a schema, if
it is joined to the same name on either base; then what a walk along the applicators
finds as the base of an embedded object with an identifier is registered
(`register_contains_bases`). Where a document is registered under another name than
its own identifier the two part, and its resources are registered under names the
walk does not ask for (`register_misses_bases`).
-/

namespace SchemaDeref

/-! ## Walking along applicators -/

/-- `document.Embeds start outermost scope s`: from the root of the document, read
with the base `start`, the schema `s` in it is met in the scope, along applicators
only. The outermost identifier is the first on the way, the one of the root not
counted. -/
inductive Schema.Embeds (document : Node) (start : Option String) :
    Option String → Scope → Node → Prop
  | member {id keywords s} (root : document = .object id keywords)
    (mem : s ∈ Keywords.applied keywords) :
    Embeds document start none ((Scope.start document start).enter id keywords) s
  | inside {outermost scope id keywords s}
    (object : Embeds document start outermost scope (.object id keywords))
    (mem : s ∈ Keywords.applied keywords) :
    Embeds document start (outermost.or (Keywords.id? keywords))
      (scope.enter id keywords) s

/-- The base of a walk and the one of a registration: where they come from different
bases they have not met an identifier, and they are the same once they have met one
that both join to the same name. -/
def Schema.BasesMeet (inside : Option String) (name : String)
    (base around : Option String) :
    Option String → Prop
  | none => base = inside ∧ around = some name
  | some outermost =>
    Uri.joinName inside outermost = Uri.joinName (some name) outermost → base = around

namespace Schema.BasesMeet

variable {inside base around outermost : Option String} {name : String}

theorem baseWithin (h : BasesMeet inside name base around outermost)
    (keywords : Keywords NodeId) :
    BasesMeet inside name (Keywords.baseWithin base keywords)
      (Keywords.baseWithin around keywords)
      (outermost.or (Keywords.id? keywords)) := by
  cases outermost with
  | some outermost => exact fun halike => by rw [h halike]
  | none =>
    obtain ⟨rfl, rfl⟩ := h
    simp only [Keywords.baseWithin, Option.none_or]
    cases Keywords.id? keywords with
    | none => exact ⟨rfl, rfl⟩
    | some id => exact congrArg some

/-- What is joined to the two bases comes to the same name. -/
theorem joinName_eq (h : BasesMeet inside name base around outermost) {id : String}
    (halike : Uri.joinName inside (outermost.getD id) =
      Uri.joinName (some name) (outermost.getD id)) :
    Uri.joinName base id = Uri.joinName around id := by
  cases outermost with
  | some outermost => rw [h halike]
  | none =>
    obtain ⟨rfl, rfl⟩ := h
    exact halike

end Schema.BasesMeet

/-- What a walk meets below the root is registered from the name on in the base of
the same place. -/
theorem Schema.Embeds.exists_around {document : Node}
    {start outermost : Option String} {scope : Scope} {s : Node}
    (h : document.Embeds start outermost scope s) (name : String) :
    ∃ id keywords, document = .object id keywords ∧
      ∃ sub ∈ Keywords.subschemas keywords, ∃ around,
      sub.schema.BaseAround (some name) around s ∧
        BasesMeet (document.baseInside start) name scope.base around outermost := by
  induction h with
  | @member id keywords s root mem =>
    obtain ⟨sub, hsub, rfl⟩ := Keywords.exists_subschema_of_applied mem
    refine ⟨id, keywords, root, sub, hsub, some name, .whole, ?_, rfl⟩
    rw [Scope.enter_base, root]
    rfl
  | @inside outermost scope id keywords s object mem ih =>
    obtain ⟨_, _, root, sub, hsub, around, haround, hmeet⟩ := ih
    refine ⟨_, _, root, sub, hsub, _, haround.applied mem, ?_⟩
    rw [Scope.enter_base]
    exact hmeet.baseWithin keywords

/-! ## What is registered -/

/-- A resource of a subschema of the root is one of the document. -/
theorem Schema.mem_named_of_subschema {ι : Type} {mark : ι} {keywords : Keywords ι}
    {name : String} {sub : Subschema ι} {resource : String × Schema ι}
    (hsub : sub ∈ Keywords.subschemas keywords)
    (h : resource ∈ sub.schema.resources name) :
    resource ∈ (Schema.object mark keywords).named name := by
  refine List.mem_cons_of_mem _ ?_
  rw [Schema.keywords?, Option.getD_some, resourcesIn_eq]
  exact List.mem_flatMap.mpr ⟨sub, hsub, h⟩

theorem Catalog.contains_register_of_named {ι : Type} {document : Schema ι}
    {uri : Option String} {name : String}
    (hname : nameFor? document uri = some name) {resource : String × Schema ι}
    (h : resource ∈ document.named name) :
    (Catalog.empty.register document uri).contains resource.1 = true := by
  rw [register_eq, hname]
  exact contains_addAll h

/-- A document that is named by its own identifier has the name as the base inside
its root. -/
theorem Schema.baseInside_of_nameFor? {ι : Type} {document : Schema ι} {name : String}
    (h : Catalog.nameFor? document none = some name) :
    document.baseInside none = some name := by
  cases document with
  | bool value => cases h
  | object mark keywords =>
    simp only [Catalog.nameFor?, keywords?, baseInside, Keywords.baseWithin] at h ⊢
    cases hid : Keywords.id? keywords with
    | none => simp [hid] at h
    | some id => simpa [hid] using h

/-- A document without a name is not registered, and nothing in it is. If it has a
name, then the base of an embedded object with an identifier that is met along
applicators is registered, provided that, where the name was given as a URI, the
outermost identifier on the way to the object, or else its own, comes to the same
name whether it is joined with the base inside the root or with the name of the
document. -/
theorem register_contains_bases (document : Node) (uri : Option String) :
    (Catalog.nameFor? document uri = none →
      (Catalog.empty.register document uri : Catalog NodeId) = .empty) ∧
    ∀ name, Catalog.nameFor? document uri = some name →
      ∀ outermost scope id keywords identifier,
        document.Embeds uri outermost scope (.object id keywords) →
        Keywords.id? keywords = some identifier →
        (uri.isSome → Uri.joinName (document.baseInside uri)
          (outermost.getD identifier) =
          Uri.joinName (some name) (outermost.getD identifier)) →
        ∃ base, (scope.enter id keywords).base = some base ∧
          (Catalog.empty.register document uri).contains base = true := by
  refine ⟨fun hname => by rw [Catalog.register_eq, hname], ?_⟩
  intro name hname outermost scope id keywords identifier hmet hid halike
  have hnames : Uri.joinName (document.baseInside uri) (outermost.getD identifier) =
      Uri.joinName (some name) (outermost.getD identifier) := by
    cases uri with
    | some uri => exact halike rfl
    | none => rw [Schema.baseInside_of_nameFor? hname]
  obtain ⟨mark, root, rfl, sub, hsub, around, hregistered, hmeet⟩ :=
    hmet.exists_around name
  have hmem : (Uri.joinName around identifier, .object id keywords) ∈
      (Schema.object mark root).named name :=
    Schema.mem_named_of_subschema hsub (hregistered.mem_resources hid)
  have hcontains := Catalog.contains_register_of_named hname hmem
  refine ⟨Uri.joinName around identifier, ?_, hcontains⟩
  rw [Scope.enter_base, ← hmeet.joinName_eq hnames, Keywords.baseWithin, hid]

/-- A resource inside another, in a document without an identifier. -/
def lists : Document :=
  .object () [("properties",
    .map [("list",
      .schema (.object () [("$id", .value (.str "list.json")),
        ("items", .schema (.object () [("$id", .value (.str "item.json"))]))]))])]

/-- The base of the inner resource. -/
theorem register_contains_bases_lists :
    Catalog.nameFor? (Session.empty.mint lists).1 (some "http://a/all.json") =
        some "http://a/all.json" ∧
      ∃ scope id keywords,
        (Session.empty.mint lists).1.Embeds (some "http://a/all.json")
          (some "list.json") scope (.object id keywords) ∧
        Keywords.id? keywords = some "item.json" ∧
        Uri.joinName ((Session.empty.mint lists).1.baseInside
          (some "http://a/all.json")) "list.json" =
          Uri.joinName (some "http://a/all.json") "list.json" ∧
        ∃ base, (scope.enter id keywords).base = some base ∧
          (Catalog.empty.register (Session.empty.mint lists).1
            (some "http://a/all.json")).contains base = true := by
  have name : Catalog.nameFor? (Session.empty.mint lists).1
      (some "http://a/all.json") = some "http://a/all.json" := by decide +kernel
  have list : (Session.empty.mint lists).1.Embeds (some "http://a/all.json") _ _ _ :=
    .member rfl (.head _)
  have item := list.inside (.head _)
  have alike :
      Uri.joinName ((Session.empty.mint lists).1.baseInside
        (some "http://a/all.json")) "list.json" =
      Uri.joinName (some "http://a/all.json") "list.json" := rfl
  exact ⟨name, _, _, _, item, rfl, alike,
    (register_contains_bases _ _).2 _ name _ _ _ _ _ item rfl fun _ => alike⟩

/-- A resource in a document with an identifier of its own. -/
def selfNamed : Document :=
  .object () [("$id", .value (.str "http://a/list.json")), ("properties",
    .map [("item", .schema (.object () [("$id", .value (.str "item.json"))]))])]

/-- Under another name than its own identifier the resources of a document are not
registered where the walk takes them to be. -/
theorem register_misses_bases :
    Catalog.nameFor? (Session.empty.mint selfNamed).1
      (some "http://a/copy/list.json") =
      some "http://a/copy/list.json" ∧
    ∃ scope id keywords,
      (Session.empty.mint selfNamed).1.Embeds (some "http://a/copy/list.json") none
        scope (.object id keywords) ∧
      Keywords.id? keywords = some "item.json" ∧
      (scope.enter id keywords).base = some "http://a/item.json" ∧
      (Catalog.empty.register (Session.empty.mint selfNamed).1
        (some "http://a/copy/list.json")).contains "http://a/item.json" = false := by
  have item : (Session.empty.mint selfNamed).1.Embeds
      (some "http://a/copy/list.json") _ _ _ :=
    .member rfl (.head _)
  refine ⟨?_, _, _, _, item, rfl, ?_, ?_⟩
  all_goals decide +kernel

end SchemaDeref
