import SchemaDeref.Proofs.Bases
import SchemaDeref.Proofs.Ways

/-!
# Names that references are looked up under

A reference is joined with the base of the scope it is met in. Along the applicators
of a document that is the base the document gives to the place it stands in; behind
a reference it is what was handed over with the destination. So a reference is
looked up by the identifiers around it (`dereference_joins_identifiers`) wherever
the last reference before it led to a place whose base was handed over as the
document has it. A reference without a document of its own hands over the base of
the place it stands in, which is right as long as it stays in one resource
(`Way.StaysInResource`); behind a pointer that goes past an identifier the base is
another (`dereference_joins_pastIdentifier`).
-/

namespace SchemaDeref

/-! ## Bases that are handed over -/

/-- That a base has the same effect inside a node as the one around it in the
document. -/
def Schema.IsBased (document : Node) (base : Option String) (node : Node) : Prop :=
  ∃ around, document.BaseAround none around node ∧
    node.baseInside base = node.baseInside around

namespace Schema.IsBased

variable {document : Node} {base : Option String}

theorem of_baseAround {node : Node} (h : document.BaseAround none base node) :
    document.IsBased base node := ⟨base, h, rfl⟩

theorem exists_around {id : NodeId} {keywords : Keywords NodeId}
    (h : document.IsBased base (.object id keywords)) :
    ∃ around, document.BaseAround none around (.object id keywords) ∧
      Keywords.baseWithin base keywords = Keywords.baseWithin around keywords := h

theorem inherited (document : Node) :
    Situation.Inherited fun _ base node => document.IsBased base node := by
  intro _ base id keywords h s hs
  obtain ⟨around, haround, hbase⟩ := h.exists_around
  rw [hbase]
  exact of_baseAround (haround.applied hs)

end Schema.IsBased

/-- A reference without a document of its own hands over the base of the place it
stands in. -/
theorem Reference.base_destination {setup : Setup} {scope : Scope}
    {reference : Reference} {run after : Run} {destination : Destination NodeId}
    (huri : reference.parts.uri = none)
    (h : (reference.destination setup scope).on run = (.ok destination, after)) :
    destination.base = scope.base := by
  simp only [Reference.destination, huri] at h
  obtain ⟨place, middle, _, hreturn⟩ := Action.on_bind_eq_ok.mp h
  cases hreturn
  rfl

/-- That every reference followed on a way is one without a document of its own, and
led to a place in the same base as it stands in. -/
inductive Way.StaysInResource (document : Node) : Way → Prop
  | nil : StaysInResource document []
  | entered {way id keywords} (rest : StaysInResource document way) :
    StaysInResource document (.entered id keywords :: way)
  | followed {way id keywords reference destination}
    (rest : StaysInResource document (.entered id keywords :: way))
    (uri : reference.parts.uri = none)
    (base : ∀ around, document.BaseAround none around (.object id keywords) →
      document.BaseAround none (Keywords.baseWithin around keywords)
        destination.place) :
    StaysInResource document (.followed reference destination ::
      .entered id keywords :: way)

/-- On a way that stays in a resource every base is handed over as the document has
it. -/
theorem Reaches.isBased {setup : Setup} {session : Session} {schema : Node}
    {way : Way} {hops : Nat} {scope : Scope} {task : Task} {run : Run}
    (reaches : Reaches setup session schema way hops scope task run)
    (h : way.StaysInResource schema) :
    ∀ reference destination, way.lastFollowed? = some (reference, destination) →
      schema.IsBased destination.base destination.place := by
  induction reaches with
  | start => rintro _ _ ⟨⟩
  | entered _ _ ih =>
    cases h with
    | entered rest => exact ih rest
  | applied _ _ ih | first _ ih | next _ _ ih | referring _ _ ih => exact ih h
  | followed referring fresh straight arrived ih =>
    rintro _ _ ⟨⟩
    cases h with
    | followed rest uri base =>
      have hhas := referring.has (Schema.IsBased.inherited schema)
        (fun _ => .of_baseAround .whole) (ih rest)
      rw [Reference.base_destination uri arrived]
      cases hhas with
      | reference holds base_eq some =>
        obtain ⟨around, haround, hbase⟩ := holds.exists_around
        rw [base_eq, hbase]
        exact .of_baseAround (base around haround)

/-! ## Calls -/

/-- What the loader is asked for in a call is looked up for a reference on some way,
and the name is the reference joined with the identifiers around it in the document,
outermost first, if the last reference followed on the way led to a place whose base
was handed over as it is in the document. It did on every way that stays in one
resource. -/
theorem dereference_joins_identifiers (setup : Setup) {session : Session}
    {schemas : List Node} {schema : Node} (h : session.Holds schemas)
    (hschema : schema ∈ schemas) :
    (∃ names, (dereference setup session schema).session.asked = session.asked ++
      names ∧
      ∀ name ∈ names, ∃ way, LooksUp setup session schema way name) ∧
    (∀ way name, LooksUp setup session schema way name →
      (∀ reference destination, way.lastFollowed? = some (reference, destination) →
        schema.IsBased destination.base destination.place) →
      ∃ id keywords rest around reference uri, way = .entered id keywords :: rest ∧
        schema.BaseAround none around (.object id keywords) ∧
        Keywords.reference? keywords = some reference ∧
          reference.parts.uri = some uri ∧
        name = Uri.joinName (Keywords.baseWithin around keywords) uri) ∧
    ∀ way name, LooksUp setup session schema way name → way.StaysInResource schema →
      ∀ reference destination, way.lastFollowed? = some (reference, destination) →
        schema.IsBased destination.base destination.place := by
  refine ⟨exists_lookups setup h hschema, ?_, ?_⟩
  · rintro way name ⟨hops, scope, followed, run, uri, follows, huri, rfl⟩ hhop
    have hwhole : schema.IsBased none schema := .of_baseAround .whole
    have hhas :=
      follows.reached.has (Schema.IsBased.inherited schema) (fun _ => hwhole) hhop
    cases hhas with
    | @reference rest _ base id keywords reference based base_eq some =>
      obtain ⟨around, haround, hbase⟩ := based.exists_around
      refine ⟨id, keywords, rest, around, reference, uri, rfl, haround, some, ?_, ?_⟩
      · rw [← huri, Reference.parts_effective]
      · rw [base_eq, hbase]
  · rintro way name ⟨hops, scope, followed, run, uri, follows, huri, rfl⟩ hstays
    exact follows.reached.isBased hstays

/-- A definition with a relative reference, and a property that refers to it. -/
def relativeDefinition : Document :=
  .object () [("$id", .value (.str "http://a/root.json")),
    ("$defs", .map [("entry", .schema (.object () [("properties",
      .map [("next",
        .schema (.object () [("$ref", .value (.str "leaf.json"))]))])]))]),
    ("properties",
      .map [("first",
        .schema (.object () [("$ref", .value (.str "#/$defs/entry"))]))])]

/-- Behind the reference to the definition the base is the one around it. -/
theorem dereference_joins_relativeDefinition :
    ∃ way, LooksUp ⟨{}, .none⟩ (Session.empty.mint relativeDefinition).2
        (Session.empty.mint relativeDefinition).1 way "http://a/leaf.json" ∧
      way.lastFollowed?.isSome ∧
      (∀ reference destination, way.lastFollowed? = some (reference, destination) →
        (Session.empty.mint relativeDefinition).1.IsBased destination.base
          destination.place) ∧
      ∃ id keywords rest around reference uri, way = .entered id keywords :: rest ∧
        (Session.empty.mint relativeDefinition).1.BaseAround none around
          (.object id keywords) ∧
        Keywords.reference? keywords = some reference ∧
          reference.parts.uri = some uri ∧
        "http://a/leaf.json" = Uri.joinName (Keywords.baseWithin around keywords)
          uri := by
  have whole : Reaches ⟨{}, .none⟩ (Session.empty.mint relativeDefinition).2
    (Session.empty.mint relativeDefinition).1 _ _ _ _ _ := .start
  have root := whole.entered rfl
  have property := (root.applied rfl).first.entered rfl
  have definition := ((property.referring rfl).followed rfl rfl rfl).entered rfl
  have next := (definition.applied rfl).first.entered rfl
  have looks : LooksUp _ _ _ _ "http://a/leaf.json" :=
    ⟨_, _, _, _, "leaf.json", ⟨next.referring rfl, rfl, by decide +kernel⟩, rfl, by
      decide +kernel⟩
  have inside : (Session.empty.mint relativeDefinition).1.BaseAround none none
      (.object 0 _) := .whole
  have joins := (dereference_joins_identifiers ⟨{}, .none⟩
    (Session.holds_empty.mint relativeDefinition) List.mem_cons_self).2.1 _ _ looks
  refine ⟨_, looks, rfl, (fun based => ⟨based, joins based⟩) ?_⟩
  rintro reference destination ⟨⟩
  exact .of_baseAround (inside.inside (.head _))

/-- A property that refers into a definition, past its identifier. -/
def pastIdentifier : Document :=
  .object () [("$id", .value (.str "http://a/root.json")),
    ("$defs", .map
      [("part", .schema (.object () [("$id", .value (.str "sub/part.json")),
      ("properties",
        .map [("x",
          .schema (.object () [("$ref", .value (.str "item.json"))]))])]))]),
    ("properties", .map [("first",
      .schema (.object () [("$ref", .value (.str "#/$defs/part/properties/x"))]))])]

/-- The reference that is reached past the identifier is not joined with it. -/
theorem dereference_joins_pastIdentifier :
    (dereference ⟨{}, .none⟩ (Session.empty.mint pastIdentifier).2
      (Session.empty.mint pastIdentifier).1).session.asked = ["http://a/item.json"] ∧
    ∃ id keywords way around,
      LooksUp ⟨{}, .none⟩ (Session.empty.mint pastIdentifier).2
        (Session.empty.mint pastIdentifier).1 (.entered id keywords :: way)
        "http://a/item.json" ∧
      Keywords.reference? keywords = some ⟨.static, "item.json"⟩ ∧
      (Session.empty.mint pastIdentifier).1.BaseAround none around
        (.object id keywords) ∧
      (∀ other, (Session.empty.mint pastIdentifier).1.BaseAround none other
        (.object id keywords) →
        other = around) ∧
      Uri.joinName (Keywords.baseWithin around keywords) "item.json" =
        "http://a/sub/item.json" := by
  have whole : Reaches ⟨{}, .none⟩ (Session.empty.mint pastIdentifier).2
    (Session.empty.mint pastIdentifier).1 _ _ _ _ _ := .start
  have property := ((whole.entered rfl).applied rfl).first.entered rfl
  have target := ((property.referring rfl).followed rfl rfl rfl).entered rfl
  have looks : LooksUp _ _ _ _ "http://a/item.json" :=
    ⟨_, _, _, _, "item.json",
      ⟨target.referring rfl, rfl, by decide +kernel⟩, rfl, by decide +kernel⟩
  have outside : (Session.empty.mint pastIdentifier).1.BaseAround none none
      (.object 0 _) := .whole
  have part : (Session.empty.mint pastIdentifier).1.BaseAround none _ (.object 1 _) :=
    outside.inside (.head _)
  have based := part.inside (.head _)
  refine ⟨by decide +kernel, _, _, _, _, looks, rfl, based, fun other h => ?_, by
    decide +kernel⟩
  exact h.unique (Session.nodup_marks_mint _ _) based

end SchemaDeref
