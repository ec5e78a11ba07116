import SchemaDeref.Proofs.Ways

/-!
# Documents that places are written in

A local reference is looked up in the document of its scope, and that is the
document it is written in wherever the last reference before it led into its own
document (`dereference_local_fragment`). A `$ref` does, and so does any reference
with a document of its own. A `$recursiveRef` or a `$dynamicRef` without one may end
at an anchor of an outer document, whose local references are then looked up in the
inner one (`dereference_local_outerAnchor`).
-/

namespace SchemaDeref

/-! ## What a document writes -/

/-- `document.Writes node`: the node stands in the document, or in something in it
that a pointer had read anew as a schema. -/
inductive Schema.Writes (document : Node) : Node → Prop
  | inside {node} (mem : node ∈ document.nodes) : Writes document node
  | reread {place node : Node} {pointer : String} {copy : Document} {next : NodeId}
    (written : Writes document place)
    (followed : place.follow pointer = .ok (.reread copy))
    (mem : node ∈ (copy.mint next).1.nodes) : Writes document node

/-- What a fragment had read anew, a pointer had. -/
theorem Node.exists_follow {document : Node} {fragment : Option String}
    {copy : Document} (h : document.locate fragment = .ok (.reread copy)) :
    ∃ pointer, document.follow pointer = .ok (.reread copy) := by
  simp only [Node.locate] at h
  split at h
  · cases h
  · split at h
    · cases h
    · exact ⟨_, h⟩
    · split at h
      · cases h
      · exact ⟨_, h⟩

namespace Schema.Writes

variable {document : Node}

/-- What stands in a node is written where the node is. -/
theorem of_mem {node s : Node} (h : document.Writes node) (hs : s ∈ node.nodes) :
    document.Writes s := by
  cases h with
  | inside mem => exact .inside (Schema.mem_nodes_trans mem hs)
  | reread written followed mem =>
    exact .reread written followed (Schema.mem_nodes_trans mem hs)

theorem inherited : Situation.Inherited fun root _ node => root.Writes node := by
  rintro root _ id keywords h s hs
  refine h.of_mem ?_
  rw [Schema.nodes]
  exact List.mem_cons_of_mem _ (Keywords.applied_subset_nodes keywords hs)

/-- Where a fragment of a document ends is written in it. -/
theorem of_locate {fragment : Option String} {place : Node} {run after : Run}
    (h : (Action.arrive (document.locate fragment)).on run = (.ok place, after)) :
    document.Writes place := by
  cases hlocate : document.locate fragment with
  | error error =>
    rw [hlocate] at h
    cases h
  | ok landing =>
    rw [hlocate] at h
    cases landing with
    | found node =>
      cases h
      exact .inside (Schema.mem_nodes_of_locate hlocate)
    | reread copy =>
      cases h
      obtain ⟨pointer, hfollow⟩ := Node.exists_follow hlocate
      exact .reread (.inside document.mem_nodes_self) hfollow
        (Schema.mem_nodes_self _)

end Schema.Writes

/-! ## Where references lead -/

/-- The way to a destination without a document of its own ends in the document of
the scope. -/
theorem Reference.destination_local (setup : Setup) {scope : Scope}
    {reference : Reference} (hstatic : reference.kind = .static)
    (huri : reference.parts.uri = none) :
    reference.destination setup scope = do
      let place ← Action.arrive (scope.root.locate reference.parts.fragment)
      return ⟨place, scope.root, scope.base⟩ := by
  simp only [destination, huri, landing, hstatic]

/-- A `$ref` leads to a place of the document it hands over, and so does any
reference with a document of its own. -/
theorem Reference.writes_destination {setup : Setup} {scope : Scope}
    {reference : Reference} {run after : Run} {destination : Destination NodeId}
    (hkind : reference.kind = .static ∨ reference.parts.uri.isSome)
    (h : (reference.destination setup scope).on run = (.ok destination, after)) :
    destination.root.Writes destination.place := by
  cases huri : reference.parts.uri with
  | none =>
    have hstatic := hkind.resolve_right (by simp [huri])
    rw [destination_local setup hstatic huri] at h
    obtain ⟨place, middle, harrive, hreturn⟩ := Action.on_bind_eq_ok.mp h
    cases hreturn
    exact .of_locate harrive
  | some uri =>
    simp only [Reference.destination, huri] at h
    obtain ⟨document, loading, _, hplace⟩ := Action.on_bind_eq_ok.mp h
    obtain ⟨place, middle, harrive, hreturn⟩ := Action.on_bind_eq_ok.mp hplace
    cases hreturn
    exact .of_locate harrive

variable {setup : Setup} {session : Session} {schema : Node}

/-- What was followed on a way led to its destination. -/
theorem Reaches.exists_arrived {way : Way} {hops : Nat} {scope : Scope}
    {task : Task} {run : Run}
    (reaches : Reaches setup session schema way hops scope task run)
    {reference : Reference} {destination : Destination NodeId}
    (h : way.lastFollowed? = some (reference, destination)) :
    ∃ scope run after, (reference.destination setup scope).on run =
      (.ok destination, after) := by
  induction reaches with
  | start => cases h
  | entered _ _ ih => exact ih h
  | applied _ _ ih => exact ih h
  | first _ ih => exact ih h
  | next _ _ ih => exact ih h
  | referring _ _ ih => exact ih h
  | followed referring fresh straight arrived ih =>
    cases h
    exact ⟨_, _, _, arrived⟩

/-- The fragment of a `$ref` without a document of its own is looked up in the
document the `$ref` is written in, and the target is read in that document, if the
last reference followed before it led into its own document; a `$ref` does, and so
does any reference that names a document. -/
theorem dereference_local_fragment {way : Way} {hops : Nat} {scope : Scope}
    {reference : Reference} {run : Run}
    (follows : Follows setup session schema way hops scope reference run)
    (hstatic : reference.kind = .static) (huri : reference.parts.uri = none)
    (hlast : ∀ last destination, way.lastFollowed? = some (last, destination) →
      last.kind ≠ .static → last.parts.uri = none →
        destination.root.Writes destination.place) :
    ∃ id keywords rest, ∃ document : Node, way = .entered id keywords :: rest ∧
      Keywords.reference? keywords = some reference ∧
        document.Writes (.object id keywords) ∧
      reference.destination setup scope = do
        let place ← Action.arrive (document.locate reference.parts.fragment)
        return ⟨place, document, scope.base⟩ := by
  have hlanded : ∀ last destination, way.lastFollowed? = some (last, destination) →
      destination.root.Writes destination.place := by
    intro last destination h
    by_cases hlocal : last.kind = .static ∨ last.parts.uri.isSome
    · obtain ⟨scope, run, after, arrived⟩ := follows.reached.exists_arrived h
      exact Reference.writes_destination hlocal arrived
    · rw [not_or, Option.not_isSome_iff_eq_none] at hlocal
      exact hlast last destination h hlocal.1 hlocal.2
  have hhas := follows.reached.has Schema.Writes.inherited
    (fun _ => .inside schema.mem_nodes_self) hlanded
  generalize heffective : reference = effective at hhas
  cases hhas with
  | @reference rest _ base id keywords written writes base_eq some =>
    -- a reference without a document of its own is followed as it is written
    have hwritten : written.parts.uri = none := by
      rw [← Reference.parts_effective, ← heffective]
      exact huri
    rw [Reference.effective_eq_self hwritten] at heffective ⊢
    subst heffective
    exact ⟨id, keywords, rest, scope.root, rfl, some, writes,
      Reference.destination_local setup hstatic huri⟩

/-- A document with a local reference. -/
def leafDocument : Document :=
  .object () [("$defs",
    .map [("leaf", .schema (.object () [("type", .value (.str "string"))]))]),
    ("properties",
      .map [("q", .schema (.object () [("$ref", .value (.str "#/$defs/leaf"))]))])]

/-- A property that refers to another document. -/
def leafReferring : Document :=
  .object () [("properties",
    .map [("p", .schema (.object () [("$ref", .value (.str "urn:b"))]))])]

/-- A call without a cache, with one document for all names. -/
def Setup.serving (document : Document) : Setup :=
  ⟨{ useCache := false }, .ofFunction fun _ => .document document⟩

/-- The local reference of the other document. -/
theorem dereference_local_fragment_leafReferring :
    ∃ way hops scope run, Follows (.serving leafDocument)
      (Session.empty.mint leafReferring).2
        (Session.empty.mint leafReferring).1 way hops scope
        ⟨.static, "#/$defs/leaf"⟩ run ∧
      way.lastFollowed?.isSome ∧
      (∀ last destination, way.lastFollowed? = some (last, destination) →
        last.kind ≠ .static → last.parts.uri = none →
          destination.root.Writes destination.place) ∧
      ∃ id keywords rest, ∃ document : Node, way = .entered id keywords :: rest ∧
        Keywords.reference? keywords = some ⟨.static, "#/$defs/leaf"⟩ ∧
        document.Writes (.object id keywords) ∧
        Reference.destination (.serving leafDocument) scope
          ⟨.static, "#/$defs/leaf"⟩ = do
          let place ← Action.arrive (document.locate (some "/$defs/leaf"))
          return ⟨place, document, scope.base⟩ := by
  have whole : Reaches (.serving leafDocument) (Session.empty.mint leafReferring).2
    (Session.empty.mint leafReferring).1 _ _ _ _ _ := .start
  have property := ((whole.entered rfl).applied rfl).first.entered rfl
  have other := ((property.referring rfl).followed rfl rfl rfl).entered rfl
  have next := (other.applied rfl).first.entered rfl
  have follows : Follows _ _ _ _ _ _ ⟨.static, "#/$defs/leaf"⟩ _ :=
    ⟨next.referring rfl, rfl, by decide +kernel⟩
  have stays := dereference_local_fragment follows rfl rfl
  refine ⟨_, _, _, _, follows, rfl, (fun hlast => ⟨hlast, stays hlast⟩) ?_⟩
  rintro last destination ⟨⟩ hkind
  exact absurd rfl hkind

/-- A `$recursiveRef` that is looked up at an anchor of the document around. -/
def innerDocument : Document :=
  .object () [("definitions",
    .map [("leaf", .schema (.object () [("type", .value (.str "integer"))]))]),
    ("properties", .map [("q",
      .schema (.object () [("$recursiveRef", .value (.str "#/definitions/uses"))]))])]

/-- An anchor with a local reference inside, around a reference to another document. -/
def outerAnchor : Document :=
  .object () [("$recursiveAnchor", .value (.bool true)),
    ("definitions",
      .map [("leaf", .schema (.object () [("type", .value (.str "string"))])),
        ("uses", .schema
          (.object () [("$ref", .value (.str "#/definitions/leaf"))]))]),
    ("properties",
      .map [("p", .schema (.object () [("$ref", .value (.str "urn:b"))]))])]

/-- The local reference of the outer document is looked up in the inner one. -/
theorem dereference_local_outerAnchor :
    ∃ id keywords way hops scope run destination after leaf,
      Follows (.serving innerDocument) (Session.empty.mint outerAnchor).2
        (Session.empty.mint outerAnchor).1 (.entered id keywords :: way) hops scope
        ⟨.static, "#/definitions/leaf"⟩ run ∧
      Schema.object id keywords ∈ (Session.empty.mint outerAnchor).1.nodes ∧
      Node.locate (Session.empty.mint outerAnchor).1 (some "/definitions/leaf") =
        .ok (.found leaf) ∧
      leaf.erase = .object () [("type", .value (.str "string"))] ∧
      (Reference.destination (.serving innerDocument) scope
        ⟨.static, "#/definitions/leaf"⟩).on run =
        (.ok destination, after) ∧
      destination.root.erase = innerDocument ∧
      destination.place.erase = .object () [("type", .value (.str "integer"))] := by
  have whole : Reaches (.serving innerDocument) (Session.empty.mint outerAnchor).2
    (Session.empty.mint outerAnchor).1 _ _ _ _ _ := .start
  have property := ((whole.entered rfl).applied rfl).first.entered rfl
  have inner := ((property.referring rfl).followed rfl rfl rfl).entered rfl
  have recursive := (inner.applied rfl).first.entered rfl
  have uses :=
    ((recursive.referring rfl).followed rfl (by decide +kernel) rfl).entered rfl
  have follows : Follows _ _ _ _ _ _ ⟨.static, "#/definitions/leaf"⟩ _ :=
    ⟨uses.referring rfl, rfl, by decide +kernel⟩
  have inside : Schema.object 2 [("$ref", .value (.str "#/definitions/leaf"))] ∈
      (Session.empty.mint outerAnchor).1.nodes := .tail _ (.tail _ (.head _))
  exact ⟨_, _, _, _, _, _, _, _, _, follows, inside, rfl, rfl, rfl, rfl, rfl⟩

end SchemaDeref
