import SchemaDeref.Proofs.Objects
import SchemaDeref.Proofs.Walk

/-!
# Local documents

Documents without identifiers whose references stay in them. A walk in such a
document never leaves it, so it asks for no other one (`Walk.reload`).
-/

namespace SchemaDeref

/-! ## Local objects -/

/-- An object without identifier and without dynamic or recursive reference, whose
`$ref`, if it has one, names no other document. -/
structure Members.IsLocal (members : Members Json) : Prop where
  id : ∀ text, get? Vocabulary.id members ≠ some (.str text)
  dynamic : ∀ text, get? ReferenceKind.dynamic.keyword members ≠ some (.str text)
  recursive : ∀ text, get? ReferenceKind.recursive.keyword members ≠ some (.str text)
  static : ∀ target, get? ReferenceKind.static.keyword members = some (.str target) →
    (ReferenceParts.ofString target).uri = none

/-- All objects in a value are local. -/
def Json.IsLocal (value : Json) : Prop :=
  ∀ members ∈ value.objects, Members.IsLocal members

namespace Members

/-- The string under a name, if there is one. -/
def text? (name : String) (members : Members Json) : Option String :=
  match get? name members with
  | some (.str text) => some text
  | _ => none

theorem text?_eq_some {name text : String} {members : Members Json} :
    text? name members = some text ↔ get? name members = some (.str text) := by
  simp only [text?]
  cases get? name members with
  | none => simp
  | some value => cases value <;> simp

theorem text?_eq_none {name : String} {members : Members Json} :
    text? name members = none ↔ ∀ text, get? name members ≠ some (.str text) := by
  simp only [Option.eq_none_iff_forall_ne_some, ne_eq, text?_eq_some]

theorem isLocal_iff {members : Members Json} :
    members.IsLocal ↔ text? Vocabulary.id members = none ∧
      text? ReferenceKind.dynamic.keyword members = none ∧
      text? ReferenceKind.recursive.keyword members = none ∧
      ∀ target ∈ text? ReferenceKind.static.keyword members,
        (ReferenceParts.ofString target).uri = none := by
  simp only [text?_eq_none, Option.mem_def, text?_eq_some]
  constructor
  · rintro ⟨hid, hdynamic, hrecursive, hstatic⟩
    exact ⟨hid, hdynamic, hrecursive, hstatic⟩
  · rintro ⟨hid, hdynamic, hrecursive, hstatic⟩
    exact ⟨hid, hdynamic, hrecursive, hstatic⟩

instance (members : Members Json) :
    Decidable members.IsLocal := decidable_of_iff' _ isLocal_iff

end Members

instance (value : Json) : Decidable value.IsLocal :=
  inferInstanceAs (Decidable (∀ members ∈ value.objects, Members.IsLocal members))

/-- Some object in a value has this `$ref`. -/
def Json.RefersTo (value : Json) (target : String) : Prop :=
  ∃ members ∈ value.objects,
    Members.get? ReferenceKind.static.keyword members = some (.str target)

/-- All objects of the second document are objects of the first. -/
def Document.Encloses (d n : Document) : Prop := n.toJson.objects ⊆ d.toJson.objects

namespace Document.Encloses

variable {d : Document} {keywords : Keywords Unit}

theorem mem (h : d.Encloses (.object () keywords)) :
    entriesToJson keywords ∈ d.toJson.objects := by
  apply h
  rw [Schema.toJson, Json.objects]
  exact List.mem_cons_self

theorem applied (h : d.Encloses (.object () keywords)) {s : Document}
    (hs : s ∈ Keywords.applied keywords) : d.Encloses s := by
  refine List.Subset.trans (Schema.objects_of_mem_nodes ?_) h
  rw [Schema.nodes]
  exact List.mem_cons_of_mem _ (Keywords.applied_subset_nodes keywords hs)

theorem refersTo (h : d.Encloses (.object () keywords)) {target : String}
    (htarget : Keywords.string? keywords ReferenceKind.static.keyword = some target) :
    d.toJson.RefersTo target :=
  ⟨_, h.mem, Keywords.get?_of_string? htarget⟩

theorem id?_eq_none (h : d.Encloses (.object () keywords))
    (hlocal : d.toJson.IsLocal) :
    Keywords.id? keywords = none := by
  cases hid : Keywords.id? keywords with
  | none => rfl
  | some text =>
    exact absurd (Keywords.get?_of_string? hid) ((hlocal _ h.mem).id text)

/-- In a local document every reference is a `$ref`. -/
theorem reference?_eq (h : d.Encloses (.object () keywords))
    (hlocal : d.toJson.IsLocal) :
    Keywords.reference? keywords =
      (Keywords.string? keywords ReferenceKind.static.keyword).map
        (⟨.static, ·⟩) := by
  have hdynamic : Keywords.string? keywords ReferenceKind.dynamic.keyword = none := by
    cases htext : Keywords.string? keywords ReferenceKind.dynamic.keyword with
    | none => rfl
    | some text =>
      exact absurd (Keywords.get?_of_string? htext) ((hlocal _ h.mem).dynamic text)
  have hrecursive : Keywords.string? keywords ReferenceKind.recursive.keyword =
      none := by
    cases htext : Keywords.string? keywords ReferenceKind.recursive.keyword with
    | none => rfl
    | some text =>
      exact absurd (Keywords.get?_of_string? htext) ((hlocal _ h.mem).recursive text)
  simp only [Keywords.reference?, ReferenceKind.all, List.findSome?_cons,
    hdynamic, hrecursive, Option.map_none, List.findSome?_nil]
  cases Keywords.string? keywords ReferenceKind.static.keyword <;> rfl

end Document.Encloses

theorem Json.RefersTo.uri {value : Json} {target : String} (h : value.RefersTo target)
    (hlocal : value.IsLocal) : (ReferenceParts.ofString target).uri = none := by
  obtain ⟨members, hmem, hget⟩ := h
  exact (hlocal members hmem).static target hget

/-! ## Staying inside -/

/-- A task inside a document. -/
def Task.Inside (d : Document) : Task → Prop
  | .node n => d.Encloses n.erase
  | .nodes ns => ∀ n ∈ ns, d.Encloses n.erase
  | .link keywords => d.Encloses (.object () (eraseEntries keywords))
  | .reference r => r.kind = .static ∧ d.toJson.RefersTo r.target

/-- A scope that has not left the document. -/
structure Scope.Within (d : Document) (scope : Scope) : Prop where
  root : scope.root.erase = d
  base : scope.base = none

theorem Scope.Within.enter {d : Document} {scope : Scope} (h : scope.Within d)
    (hlocal : d.toJson.IsLocal) (id : NodeId) {keywords : Keywords NodeId}
    (hinside : d.Encloses (.object () (eraseEntries keywords))) :
    (scope.enter id keywords).Within d := by
  have hview := scope.view_enter id keywords
  have hbase : (scope.enter id keywords).view.base = none := by
    rw [hview]
    simp only [View.enter, Keywords.baseWithin, hinside.id?_eq_none hlocal]
    exact h.base
  have hroot : (scope.enter id keywords).view.root = d := by
    rw [hview]
    exact h.root
  exact ⟨hroot, hbase⟩

/-- In a local document a `$ref` leads to the place its fragment names, in the
document itself. -/
theorem Reference.Arrives.local {setup : Setup} {d : Document} {scope : Scope}
    {reference : Reference} {run after : Run}
    {outcome : Except DerefError (Destination NodeId)}
    (route : reference.Arrives setup scope run outcome after) (h : scope.Within d)
    (hkind : reference.kind = .static) (huri : reference.parts.uri = none) :
    outcome.map Destination.erase = (d.locate reference.parts.fragment).map
      (⟨·, d, none⟩) := by
  have heq := congrArg Prod.fst route.erase_eq
  simp only [View.destination, huri, View.place, hkind, Scope.view_root, h.root,
    Scope.view_base, h.base] at heq
  exact heq.symm

/-- A reference without a document of its own is followed without the loader. -/
theorem Reference.Arrives.reload {setup : Setup} {scope : Scope}
    {reference : Reference} {run after : Run}
    {outcome : Except DerefError (Destination NodeId)}
    (route : reference.Arrives setup scope run outcome after)
    (huri : reference.parts.uri = none) (loader : Loader) :
    reference.Arrives { setup with loader } scope run outcome after where
  on_eq := by
    have heq := route.on_eq
    simp only [destination, huri] at heq ⊢
    exact heq
  erase_eq := by
    have heq := route.erase_eq
    simp only [View.destination, huri] at heq ⊢
    exact heq
  memo_eq := route.memo_eq

/-- What lies behind such a reference is in the document. -/
theorem Reference.Arrives.inside {setup : Setup} {d : Document} {scope : Scope}
    {reference : Reference} {run after : Run} {destination : Destination NodeId}
    (route : reference.Arrives setup scope run (.ok destination) after)
    (h : scope.Within d) (hkind : reference.kind = .static)
    (huri : reference.parts.uri = none) :
    d.locate reference.parts.fragment = .ok destination.place.erase ∧
      (Task.node destination.place).Inside d ∧
      ∀ key, (scope.descend key destination.root destination.base).Within d := by
  have heq := route.local h hkind huri
  cases hlocated : d.locate reference.parts.fragment with
  | error error =>
    rw [hlocated] at heq
    cases heq
  | ok place =>
    rw [hlocated] at heq
    simp only [Except.map, Except.ok.injEq, Destination.erase, Destination.mk.injEq]
      at heq
    obtain ⟨rfl, hroot, hbase⟩ := heq
    exact ⟨rfl, Document.objects_of_locate hlocated, fun key => ⟨hroot, hbase⟩⟩

theorem Task.Inside.applied {d : Document} {keywords : Keywords NodeId}
    (h : (Task.link keywords).Inside d) :
    (Task.nodes (Keywords.applied keywords)).Inside d := by
  intro n hn
  refine Document.Encloses.applied h ?_
  rw [Keywords.applied_erase]
  exact List.mem_map_of_mem hn

theorem Task.Inside.effective {d : Document} (hlocal : d.toJson.IsLocal)
    {keywords : Keywords NodeId} (h : (Task.link keywords).Inside d)
    {reference : Reference}
    (hreference : Keywords.reference? keywords = some reference) :
    reference.effective = reference ∧
      Keywords.string? keywords ReferenceKind.static.keyword = some reference.target ∧
      (Task.reference reference).Inside d := by
  have hstatic := Document.Encloses.reference?_eq h hlocal
  rw [Keywords.reference?_erase, hreference, Keywords.string?_erase] at hstatic
  cases htarget : Keywords.string? keywords ReferenceKind.static.keyword with
  | none =>
    rw [htarget] at hstatic
    cases hstatic
  | some target =>
    rw [htarget, Option.map_some, Option.some.injEq] at hstatic
    subst hstatic
    refine ⟨rfl, rfl, rfl, ?_⟩
    exact Document.Encloses.refersTo h (by rw [Keywords.string?_erase, htarget])

/-- A walk in a local document does not depend on the loader. -/
theorem Walk.reload {d : Document} (hlocal : d.toJson.IsLocal) (loader : Loader)
    {setup : Setup} {Fair : Fairness} {hops : Nat} {scope : Scope} {task : Task}
    {state after : State} {result : Except DerefError Answer} {reach : Reach}
    (walk : Walk setup Fair hops scope task state result after reach) :
    scope.Within d → task.Inside d →
      Walk { setup with loader } Fair hops scope task state result after reach := by
  induction walk with
  | bool => exact fun _ _ => .bool
  | nil => exact fun _ _ => .nil
  | unreferring none => exact fun _ _ => .unreferring none
  | recalled hit noted mark fair => exact fun _ _ => .recalled hit noted mark fair
  | reused hit static noted mark fair =>
    exact fun _ _ => .reused hit static noted mark fair
  | circled fresh circular keeps => exact fun _ _ => .circled fresh circular keeps
  | circular fresh circular keeps => exact fun _ _ => .circular fresh circular keeps
  | tooDeep fresh straight => exact fun _ _ => .tooDeep fresh straight
  | @unlinked _ scope id keywords _ _ _ _ fresh link ih =>
    intro hscope hinside
    rw [Task.Inside, Schema.erase_object] at hinside
    exact .unlinked fresh (ih (hscope.enter hlocal id hinside) hinside)
  | @unfinished _ scope id keywords _ _ _ _ _ _ _ fresh link members ihlink
    ihmembers =>
    intro hscope hinside
    rw [Task.Inside, Schema.erase_object] at hinside
    have hinner := hscope.enter hlocal id hinside
    exact .unfinished fresh (ihlink hinner hinside)
      (ihmembers hinner (.applied hinside))
  | @concluded _ scope id keywords _ _ _ _ _ _ _ _ _ fresh link members conclude
    erase ihlink
      ihmembers =>
    intro hscope hinside
    rw [Task.Inside, Schema.erase_object] at hinside
    have hinner := hscope.enter hlocal id hinside
    exact .concluded fresh (ihlink hinner hinside)
      (ihmembers hinner (.applied hinside)) conclude erase
  | headFailed head ih =>
    exact fun hscope hinside => .headFailed (ih hscope (hinside _ List.mem_cons_self))
  | tailFailed head tail ihhead ihtail =>
    intro hscope hinside
    obtain ⟨hfirst, hrest⟩ := List.forall_mem_cons.mp hinside
    exact .tailFailed (ihhead hscope hfirst) (ihtail hscope hrest)
  | cons head tail ihhead ihtail =>
    intro hscope hinside
    obtain ⟨hfirst, hrest⟩ := List.forall_mem_cons.mp hinside
    exact .cons (ihhead hscope hfirst) (ihtail hscope hrest)
  | referring some follow ih =>
    intro hscope hinside
    obtain ⟨heffective, _, hreference⟩ := Task.Inside.effective hlocal hinside some
    rw [heffective] at ih
    exact .referring some (heffective.symm ▸ ih hscope hreference)
  | lost fresh straight route =>
    rintro hscope ⟨hkind, hrefers⟩
    exact .lost fresh straight (route.reload (hrefers.uri hlocal) loader)
  | unexpanded fresh straight route target ih =>
    rintro hscope ⟨hkind, hrefers⟩
    obtain ⟨_, hinside, hwithin⟩ := route.inside hscope hkind (hrefers.uri hlocal)
    exact .unexpanded fresh straight (route.reload (hrefers.uri hlocal) loader)
      (ih (hwithin _) hinside)
  | expanded fresh straight route target ih =>
    rintro hscope ⟨hkind, hrefers⟩
    obtain ⟨_, hinside, hwithin⟩ := route.inside hscope hkind (hrefers.uri hlocal)
    exact .expanded fresh straight (route.reload (hrefers.uri hlocal) loader)
      (ih (hwithin _) hinside)

end SchemaDeref
