import SchemaDeref.Proofs.Circles
import SchemaDeref.Proofs.Stands

/-!
# The search as a check beforehand

What the search for circular paths finds, a call finds, too: every stand of a walk
lies at a pointer that the search's graph reaches, and behind the pointer of every
reference in flight (`Document.Stands.reached`). So a document in which the search
finds no circle is dereferenced without meeting a circular reference
(`dereference_without_circles`).
-/

namespace SchemaDeref

/-! ## References as pointers -/

/-- A fragment is a pointer by itself, wherever it stands. -/
theorem Pointer.beside_of_isFragment {target : String}
    (h : Pointer.isFragment target = true) (place : String) :
    Pointer.beside place target = target := by
  have hhash : target.toList.head? = some '#' := by
    rw [Pointer.isFragment] at h
    split at h
    · rename_i hchars
      rw [hchars]
      rfl
    · rename_i hchars
      rw [hchars]
      rfl
    · cases h
  rw [Pointer.beside, if_pos hhash]

/-- The one fragment that names the whole document. -/
theorem Pointer.eq_hash_of_isRoot {target : String}
    (h : Pointer.isFragment target = true)
    (hroot : (ReferenceParts.ofString target).isRoot = true) : target = "#" := by
  rw [Pointer.isFragment] at h
  split at h
  · rename_i hchars
    exact String.toList_injective hchars
  · rename_i rest hchars
    simp [ReferenceParts.isRoot, ReferenceParts.ofString, hchars] at hroot
  · cases h

namespace Document

variable {value : Json} {d : Document}

/-- A `$ref` that is a fragment of a place leads there, from wherever it stands. -/
theorem Leads.fragment {p target : String} {keywords : Keywords Unit}
    {place : Document} (here : d.at p = .ok (.object () keywords))
    (refers : Keywords.string? keywords ReferenceKind.static.keyword = some target)
    (hfragment : Pointer.isFragment target = true) (there : d.at target = .ok place) :
    d.Leads p target := by
  have hbeside := Pointer.beside_of_isFragment hfragment p
  have leads : d.Leads p (Pointer.beside p target) :=
    .reference here refers (hbeside.symm ▸ there)
  rw [hbeside] at leads
  exact leads

/-- What a stand is in the graph of the search: a pointer that is reached from the
root, and from the pointers of all references in flight. -/
structure ReachedAt (d : Document) (path : List String) (n : Document)
    (pointer : String) : Prop where
  root : Relation.ReflTransGen d.Leads "#" pointer
  here : d.at pointer = .ok n
  path : ∀ key ∈ path, ∃ target place, key = localKey target ∧
    d.at target = .ok place ∧
    Relation.ReflTransGen d.Leads target pointer

theorem ReachedAt.leads {path : List String} {n m : Document} {p q : String}
    (h : d.ReachedAt path n p) (leads : d.Leads p q) (there : d.at q = .ok m) :
    d.ReachedAt path m q where
  root := h.root.tail leads
  here := there
  path key hkey := by
    obtain ⟨target, place, heq, hplace, hreached⟩ := h.path key hkey
    exact ⟨target, place, heq, hplace, hreached.tail leads⟩

/-- Every stand of a walk is reached in the graph of the search. -/
theorem Stands.reached (hd : Schema.ofJson? value = some d) (hwell : value.WellFormed)
    (hpointed : d.toJson.IsPointed) {path : List String} {n : Document}
    (h : d.Stands path n) :
    ∃ pointer, d.ReachedAt path n pointer := by
  induction h with
  | root => exact ⟨"#", .refl, at_root d, by simp⟩
  | applied stand mem ih =>
    -- the search goes into all subschemas, and so into those that are applied
    obtain ⟨p, hp⟩ := ih
    obtain ⟨sub, hsub, rfl⟩ := Keywords.exists_subschema_of_applied mem
    exact ⟨_, hp.leads (.subschema hp.here hsub)
      (Schema.at_subschema hd hwell hp.here hsub)⟩
  | @place path keywords target place stand refers straight located ih =>
    obtain ⟨p, hp⟩ := ih
    have hfragment := (stand.encloses.refersTo refers).isFragment hpointed
    have there : d.at target = .ok place :=
      (Document.locate_eq_ok_iff hd hfragment).mp located
    -- the target has a pointer of its own, which leads on from here and starts anew
    have htarget := hp.leads (.fragment hp.here refers hfragment there) there
    refine ⟨target, htarget.root, there, ?_⟩
    exact List.forall_mem_cons.mpr ⟨⟨target, place, rfl, there, .refl⟩, htarget.path⟩

/-- Where a circular reference is met, the graph of the search goes round. -/
theorem Meets.exists_transGen (hd : Schema.ofJson? value = some d)
    (hwell : value.WellFormed) (hpointed : d.toJson.IsPointed) {path : List String}
    {target : String} (h : d.Meets path target) (circular : Circular path target) :
    ∃ p, Relation.ReflTransGen d.Leads "#" p ∧ Relation.TransGen d.Leads p p := by
  have hfragment := h.refersTo.isFragment hpointed
  obtain ⟨keywords, stand, refers⟩ := h
  obtain ⟨p, hp⟩ := stand.reached hd hwell hpointed
  refine ⟨p, hp.root, ?_⟩
  rcases circular with hmem | hroot
  · obtain ⟨other, place, heq, there, hback⟩ := hp.path _ hmem
    obtain rfl := localKey_inj heq
    exact .head' (.fragment hp.here refers hfragment there) hback
  · obtain rfl := Pointer.eq_hash_of_isRoot hfragment hroot
    exact .head' (.fragment hp.here refers hfragment (at_root d)) hp.root

/-- Wherever a walk comes upon a reference, it is not circular. -/
def IsStraight (d : Document) : Prop :=
  ∀ path target, d.Meets path target → ¬ Circular path target

/-- Where the search finds no circle, a walk meets none. -/
theorem isStraight_of_circles (hd : Schema.ofJson? value = some d)
    (hwell : value.WellFormed) (hpointed : d.toJson.IsPointed)
    (hcircles : d.circles = []) : d.IsStraight := by
  intro path target meets circular
  obtain ⟨p, hp, hloop⟩ := meets.exists_transGen hd hwell hpointed circular
  exact ((settled_of_circles hd hwell hcircles).reached hp).not_transGen hloop

end Document

/-! ## Calls -/

/-- In a document without identifiers all whose references are pointers into it, and
in which the search finds no circle, no call fails at a circular reference and no
call keeps one. -/
theorem dereference_without_circles (setup : Setup) {session : Session}
    {schemas : List Node} {schema : Node} (h : session.Holds schemas)
    (hschema : schema ∈ schemas) {value : Json}
    (hvalue : Schema.ofJson? value = some schema.erase) (hwell : value.WellFormed)
    (hpointed : value.IsPointed) (hcircles : schema.erase.circles = []) :
    (∀ target, (dereference setup session schema).result ≠
      .error (.circular target)) ∧
    ∀ report, (dereference setup session schema).result = .ok report →
      report.edges = [] := by
  have hjson : schema.erase.toJson = value := Schema.toJson_of_ofJson? hvalue
  subst hjson
  have hnone := Document.isStraight_of_circles hvalue hwell hpointed hcircles
  obtain ⟨hfails, hkeeps⟩ := dereference_explained setup h hschema hpointed.isLocal
  constructor
  · intro target hresult
    cases hfails _ hresult with
    | circular meets circular keeps => exact hnone _ _ meets circular
    | lost meets located =>
      rcases Document.fault_of_locate located with ⟨pointer,
        ⟨token, hfault⟩ | ⟨reason, hfault⟩⟩
      · cases hfault
      · cases hfault
  · intro report hreport
    refine List.eq_nil_iff_forall_not_mem.mpr fun key hkey => ?_
    obtain ⟨path, target, meets, circular, _⟩ := hkeeps report hreport key hkey
    exact hnone path target meets circular

/-- A property that refers to a definition which has one of its own. -/
def nestedDefinitions : Json :=
  .obj [("$defs", .obj [("name", .obj [("type", .str "string")]),
      ("person", .obj
        [("properties", .obj [("name", .obj [("$ref", .str "#/$defs/name")])])])]),
    ("properties", .obj [("author", .obj [("$ref", .str "#/$defs/person")])])]

/-- The same as a schema. -/
def nestedSchema : Document := (Schema.ofJson? nestedDefinitions).getD (.bool true)

theorem dereference_without_circles_nestedDefinitions :
    ∃ report : Report,
      (dereference ⟨{ cyclePolicy := .ignore }, .none⟩
        (Session.empty.mint nestedSchema).2
        (Session.empty.mint nestedSchema).1).result = .ok report ∧
          report.edges = [] := by
  have hvalue : Schema.ofJson? nestedDefinitions =
      some (Session.empty.mint nestedSchema).1.erase := rfl
  have hwell : nestedDefinitions.WellFormed := by decide +kernel
  have hpointed : nestedDefinitions.IsPointed := by decide +kernel
  have hcircles : (Session.empty.mint nestedSchema).1.erase.circles = [] := by
    decide +kernel
  refine ⟨_, rfl, ?_⟩
  exact (dereference_without_circles ⟨{ cyclePolicy := .ignore }, .none⟩
    (Session.holds_empty.mint nestedSchema) List.mem_cons_self hvalue hwell
    hpointed hcircles).2 _ rfl

end SchemaDeref
