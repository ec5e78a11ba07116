import Mathlib.Data.List.Perm.Subperm
import Mathlib.Logic.Relation
import SchemaDeref.Proofs.Growth
import SchemaDeref.Proofs.Local

/-!
# Inlining

What dereferencing means for a single document without identifiers whose references
stay in it: every reference gives way to the inlining of its target. Where circular
references are failures, a call that succeeds gives the inlining (`Walk.inlined`),
and a document that has one fails for want of depth alone (`Walk.tooDeep_of_error`):
a reference in flight would have to be needed for its own target, and a finite
inlining needs nothing for itself.
-/

namespace SchemaDeref

/-! ## The inlining of a document -/

/-- `Inline d n out`: read in the document `d`, the schema `n` inlines to `out`. The
schemas an object applies are inlined in place, and a `$ref` gives way to the
inlining of the place it names, with what stands beside it laid over. -/
inductive Inline (d : Document) : Document → Document → Prop
  | bool (value : Bool) : Inline d (.bool value) (.bool value)
  | object {keywords : Keywords Unit} {results : List Document}
    (plain : Keywords.string? keywords ReferenceKind.static.keyword = none)
    (length : results.length = (Keywords.applied keywords).length)
    (members : ∀ a b, (a, b) ∈ (Keywords.applied keywords).zip results →
      Inline d a b) :
    Inline d (.object () keywords) (.object () (Keywords.refill keywords results))
  | reference {keywords : Keywords Unit} {target : String} {place out : Document}
    {results : List Document}
    (refers : Keywords.string? keywords ReferenceKind.static.keyword = some target)
    (located : d.locate (ReferenceParts.ofString target).fragment = .ok place)
    (inlined : Inline d place out)
    (length : results.length = (Keywords.applied keywords).length)
    (members : ∀ a b, (a, b) ∈ (Keywords.applied keywords).zip results →
      Inline d a b) :
    Inline d (.object () keywords)
      (out.overlaid (Keywords.siblings (Keywords.refill keywords results)))

theorem eq_of_zip {α : Type} {R : α → α → Prop} {xs ys zs : List α}
    (hys : ys.length = xs.length) (hzs : zs.length = xs.length)
    (h : ∀ a b, (a, b) ∈ xs.zip ys → ∀ c, R a c → b = c)
    (hR : ∀ a c, (a, c) ∈ xs.zip zs → R a c) : ys = zs := by
  induction xs generalizing ys zs with
  | nil =>
    rw [List.length_eq_zero_iff.mp hys, List.length_eq_zero_iff.mp hzs]
  | cons x xs ih =>
    obtain ⟨y, ys, rfl⟩ := List.exists_cons_of_length_eq_add_one hys
    obtain ⟨z, zs, rfl⟩ := List.exists_cons_of_length_eq_add_one hzs
    have hhead : y = z := h x y List.mem_cons_self z (hR x z List.mem_cons_self)
    have htail : ys = zs := ih (Nat.succ.inj hys) (Nat.succ.inj hzs)
      (fun a b hab => h a b (List.mem_cons_of_mem _ hab))
      (fun a c hac => hR a c (List.mem_cons_of_mem _ hac))
    rw [hhead, htail]

/-- A schema has one inlining at most. -/
theorem Inline.deterministic {d n a : Document} (h : Inline d n a) :
    ∀ {b}, Inline d n b → a = b := by
  induction h with
  | bool value =>
    intro b h'
    cases h'
    rfl
  | object plain length members ih =>
    intro b h'
    cases h' with
    | object plain' length' members' =>
      rw [eq_of_zip length length' (fun a b hab c => ih a b hab) members']
    | reference refers => rw [plain] at refers; cases refers
  | reference refers located inlined length members ihinlined ih =>
    intro b h'
    cases h' with
    | object plain => rw [plain] at refers; cases refers
    | reference refers' located' inlined' length' members' =>
      rw [refers] at refers'
      cases refers'
      rw [located] at located'
      cases located'
      rw [ihinlined inlined',
        eq_of_zip length length' (fun a b hab c => ih a b hab) members']

theorem exists_zip_of_mem {α β : Type} {xs : List α} {ys : List β}
    (h : ys.length = xs.length) {a : α} (ha : a ∈ xs) : ∃ b, (a, b) ∈ xs.zip ys := by
  obtain ⟨i, hi, rfl⟩ := List.mem_iff_getElem.mp ha
  have hi' : i < ys.length := h ▸ hi
  refine ⟨ys[i], List.mem_iff_getElem.mpr ⟨i, ?_, List.getElem_zip⟩⟩
  rw [List.length_zip]
  omega

/-! ## What an inlining needs -/

/-- The inlining of the first schema needs that of the second. -/
inductive Needs (d : Document) : Document → Document → Prop
  | applied {keywords : Keywords Unit} {s : Document}
    (mem : s ∈ Keywords.applied keywords) :
    Needs d (.object () keywords) s
  | place {keywords : Keywords Unit} {target : String} {place : Document}
    (refers : Keywords.string? keywords ReferenceKind.static.keyword = some target)
    (located : d.locate (ReferenceParts.ofString target).fragment = .ok place) :
    Needs d (.object () keywords) place

/-- Nothing is needed forever on. -/
theorem Inline.acc {d n out : Document} (h : Inline d n out) :
    Acc (fun m n => Needs d n m) n := by
  -- an inlining is a finite tree, and what a schema needs has its own below it
  induction h with
  | bool value =>
    refine Acc.intro _ fun m hm => ?_
    cases hm
  | object plain length members ih =>
    refine Acc.intro _ fun m hm => ?_
    cases hm with
    | applied mem =>
      obtain ⟨b, hb⟩ := exists_zip_of_mem length mem
      exact ih m b hb
    | place refers => rw [plain] at refers; cases refers
  | reference refers located inlined length members ihinlined ih =>
    refine Acc.intro _ fun m hm => ?_
    cases hm with
    | applied mem =>
      obtain ⟨b, hb⟩ := exists_zip_of_mem length mem
      exact ih m b hb
    | place refers' located' =>
      rw [refers] at refers'
      cases refers'
      rw [located] at located'
      cases located'
      exact ihinlined

theorem not_self_of_acc {α : Type} {r : α → α → Prop} {a : α} (h : Acc r a) :
    ¬ r a a := by
  induction h with
  | intro x _ ih => exact fun hx => ih x hx hx

/-- What has an inlining is not needed for itself. -/
theorem Inline.not_needs_self {d n out : Document} (h : Inline d n out) {m : Document}
    (hm : Relation.ReflTransGen (Needs d) n m) : ¬ Needs d m n := by
  intro hback
  have hloop : Relation.TransGen (Needs d) n n := Relation.TransGen.tail' hm hback
  have hswap : Relation.TransGen (fun m n => Needs d n m) n n :=
    Relation.transGen_swap.mpr hloop
  exact not_self_of_acc h.acc.transGen hswap

/-! ## Walks that succeed -/

/-- What a remembered result has to do with inlining. -/
def Mark.Inlined (d result : Document) : Mark → Prop
  | .node n => Inline d n.erase result
  | .reference _ target =>
    ∃ place, d.locate (ReferenceParts.ofString target).fragment = .ok place ∧
      Inline d place result

/-- Every remembered result is an inlining. -/
def State.Inlined (d : Document) (state : State) : Prop :=
  ∀ note ∈ state.notes, note.mark.Inlined d note.result.erase

/-- What an answer to a task has to do with inlining. -/
def Task.Inlined (d : Document) : Task → Answer → Prop
  | .node n, .node result => Inline d n.erase result.erase
  | .nodes ns, .nodes results =>
    ∀ a b, (a, b) ∈ (ns.map Schema.erase).zip (results.map Schema.erase) →
      Inline d a b
  | .link keywords, .outcome .kept =>
    Keywords.string? keywords ReferenceKind.static.keyword = none
  | .link keywords, .outcome (.target result) => ∃ target place,
    Keywords.string? keywords ReferenceKind.static.keyword = some target ∧
      d.locate (ReferenceParts.ofString target).fragment = .ok place ∧
        Inline d place result.erase
  | .reference r, .outcome (.target result) =>
    ∃ place, d.locate r.parts.fragment = .ok place ∧ Inline d place result.erase
  | _, _ => False

/-- An object inlines as its reference and the schemas it applies do. -/
theorem Inline.concluded {d : Document} {keywords : Keywords NodeId}
    {outcome : Outcome} {results : List Node}
    (hlink : (Task.link keywords).Inlined d (.outcome outcome))
    (hlength : results.length = (Keywords.applied keywords).length)
    (hmembers : (Task.nodes (Keywords.applied keywords)).Inlined d (.nodes results)) :
    Inline d (.object () (eraseEntries keywords))
      (Document.concluded (Keywords.refill (eraseEntries keywords)
        (results.map Schema.erase))
        outcome.erase) := by
  have hlength' : (results.map Schema.erase).length =
      (Keywords.applied (eraseEntries keywords)).length := by
    rw [Keywords.applied_erase, List.length_map, List.length_map, hlength]
  have hmembers' : ∀ a b,
      (a, b) ∈ (Keywords.applied (eraseEntries keywords)).zip
        (results.map Schema.erase) →
        Inline d a b := by
    rw [Keywords.applied_erase]
    exact hmembers
  cases outcome with
  | kept =>
    refine .object ?_ hlength' hmembers'
    rw [Keywords.string?_erase]
    exact hlink
  | target result =>
    obtain ⟨target, place, hrefers, hlocated, hinlined⟩ := hlink
    refine .reference ?_ hlocated hinlined hlength' hmembers'
    rw [Keywords.string?_erase]
    exact hrefers

variable {setup : Setup} {Fair : Fairness} {hops : Nat} {scope : Scope}
  {task : Task} {state after : State} {result : Except DerefError Answer}
  {reach : Reach}

/-- A walk that succeeds inlines, and remembers nothing but inlinings. -/
theorem Walk.inlined {d : Document} (hlocal : d.toJson.IsLocal)
    (hkeeps : setup.settings.cyclePolicy.keepsEdges = false)
    (walk : Walk setup Fair hops scope task state result after reach) :
    scope.Within d → task.Inside d → state.Inlined d → ∀ answer, result = .ok answer →
      after.Inlined d ∧ task.Inlined d answer := by
  induction walk with
  | unlinked | unfinished | headFailed | tailFailed | circular | tooDeep | lost
  | unexpanded =>
    rintro _ _ _ answer ⟨⟩
  | circled _ _ keeps => simp [hkeeps] at keeps
  | @bool _ _ value =>
    rintro _ _ hstate answer ⟨⟩
    refine ⟨hstate, ?_⟩
    rw [Task.Inlined, Schema.erase_bool]
    exact .bool value
  | @recalled _ _ id keywords state note _ noted mark _ =>
    rintro _ _ hstate answer ⟨⟩
    refine ⟨hstate, ?_⟩
    have hnote := hstate note noted
    rw [mark] at hnote
    exact hnote
  | @concluded _ scope id keywords state outcome middle results after result
    next reach reach' fresh
      link members conclude erase ihlink ihmembers =>
    rintro hscope hinside hstate answer ⟨⟩
    rw [Task.Inside, Schema.erase_object] at hinside
    have hinner := hscope.enter hlocal id hinside
    obtain ⟨hmiddle, hlink⟩ := ihlink hinner hinside hstate _ rfl
    obtain ⟨hafter, hmembers⟩ := ihmembers hinner (.applied hinside) hmiddle _ rfl
    have hresult : Inline d (Schema.object id keywords).erase result.erase := by
      rw [erase, Schema.erase_object]
      exact .concluded hlink (members.fits _ rfl) hmembers
    exact ⟨List.forall_mem_cons.mpr ⟨hresult, hafter⟩, hresult⟩
  | nil =>
    rintro _ _ hstate answer ⟨⟩
    refine ⟨hstate, fun a b hab => ?_⟩
    simp at hab
  | cons head tail ihhead ihtail =>
    rintro hscope hinside hstate answer ⟨⟩
    obtain ⟨hfirst, hrest⟩ := List.forall_mem_cons.mp hinside
    obtain ⟨hmiddle, hresult⟩ := ihhead hscope hfirst hstate _ rfl
    obtain ⟨hafter, hresults⟩ := ihtail hscope hrest hmiddle _ rfl
    refine ⟨hafter, fun a b hab => ?_⟩
    rw [List.map_cons, List.map_cons, List.zip_cons_cons, List.mem_cons] at hab
    rcases hab with hab | hab
    · cases hab
      exact hresult
    · exact hresults a b hab
  | @unreferring _ _ keywords _ none =>
    rintro _ hinside hstate answer ⟨⟩
    have hstatic := Document.Encloses.reference?_eq hinside hlocal
    rw [Keywords.reference?_erase, none, Keywords.string?_erase] at hstatic
    exact ⟨hstate, Option.map_eq_none_iff.mp hstatic.symm⟩
  | @referring _ _ keywords _ reference _ _ _ some follow ih =>
    intro hscope hinside hstate answer hanswer
    obtain ⟨heffective, hrefers, hreference⟩ :=
      Task.Inside.effective hlocal hinside some
    rw [heffective] at ih
    obtain ⟨hafter, hinlined⟩ := ih hscope hreference hstate answer hanswer
    refine ⟨hafter, ?_⟩
    cases answer with
    | node _ | nodes _ => exact hinlined.elim
    | outcome outcome =>
      cases outcome with
      | kept => exact hinlined.elim
      | target result =>
        obtain ⟨place, hlocated, hinline⟩ := hinlined
        exact ⟨reference.target, place, hrefers, hlocated, hinline⟩
  | @reused _ _ reference state note _ _ noted mark _ =>
    rintro _ _ hstate answer ⟨⟩
    refine ⟨hstate, ?_⟩
    have hnote := hstate note noted
    rw [mark] at hnote
    exact hnote
  | @expanded _ scope reference state destination run result after reach fresh
    straight route target
      ih =>
    rintro hscope ⟨hkind, hrefers⟩ hstate answer ⟨⟩
    obtain ⟨hlocated, hinside, hwithin⟩ :=
      route.inside hscope hkind (hrefers.uri hlocal)
    obtain ⟨hafter, hresult⟩ := ih (hwithin _) hinside hstate _ rfl
    refine ⟨?_, _, hlocated, hresult⟩
    simp only [State.Inlined, State.noteReference, hkind, if_true]
    exact List.forall_mem_cons.mpr ⟨⟨_, hlocated, hresult⟩, hafter⟩

/-! ## Walks that fail -/

/-- The key of a `$ref` in a document without identifiers. -/
def localKey (target : String) : String := (⟨.static, target⟩ : Reference).key none

theorem localKey_inj {a b : String} (h : localKey a = localKey b) : a = b := by
  simp only [localKey, Reference.key] at h
  exact String.append_right_inj _ |>.mp h

/-- The places that lead to a schema: the whole document does, and so does the
target of every reference in flight. -/
structure Behind (d : Document) (path : List String) (n : Document) : Prop where
  root : Relation.ReflTransGen (Needs d) d n
  path : ∀ key ∈ path, ∃ target place, key = localKey target ∧
    d.toJson.RefersTo target ∧
    d.locate (ReferenceParts.ofString target).fragment = .ok place ∧
      Relation.ReflTransGen (Needs d) place n

theorem Behind.needs {d : Document} {path : List String} {n m : Document}
    (h : Behind d path n) (hm : Needs d n m) : Behind d path m where
  root := h.root.tail hm
  path key hkey := by
    obtain ⟨target, place, hkey, hrefers, hlocated, hleads⟩ := h.path key hkey
    exact ⟨target, place, hkey, hrefers, hlocated, hleads.tail hm⟩

/-- What is left to do has an inlining, and lies behind the references in flight. -/
def Task.Awaits (d : Document) (path : List String) : Task → Prop
  | .node n => (∃ out, Inline d n.erase out) ∧ Behind d path n.erase
  | .nodes ns => ∀ n ∈ ns, (∃ out, Inline d n.erase out) ∧ Behind d path n.erase
  | .link keywords => (∃ out, Inline d (.object () (eraseEntries keywords)) out) ∧
      Behind d path (.object () (eraseEntries keywords))
  | .reference r => ∃ n place, Behind d path n ∧ Needs d n place ∧
      d.locate r.parts.fragment = .ok place ∧ ∃ out, Inline d place out

/-- A failure for want of depth: more references are in flight than the limit allows. -/
def TooDeep (d : Document) (limit : Nat) (error : DerefError) : Prop :=
  (∃ target, error = .tooDeep limit target) ∧
    ∃ keys : List String, keys.Nodup ∧ keys.length = limit + 1 ∧
      ∀ key ∈ keys, ∃ target, key = localKey target ∧ d.toJson.RefersTo target

theorem Inline.exists_applied {d : Document} {keywords : Keywords Unit}
    {out : Document} (h : Inline d (.object () keywords) out) {s : Document}
    (hs : s ∈ Keywords.applied keywords) :
    ∃ result, Inline d s result := by
  cases h with
  | object plain length members =>
    obtain ⟨b, hb⟩ := exists_zip_of_mem length hs
    exact ⟨b, members s b hb⟩
  | reference refers located inlined length members =>
    obtain ⟨b, hb⟩ := exists_zip_of_mem length hs
    exact ⟨b, members s b hb⟩

theorem Inline.exists_place {d : Document} {keywords : Keywords Unit} {out : Document}
    (h : Inline d (.object () keywords) out) {target : String}
    (htarget : Keywords.string? keywords ReferenceKind.static.keyword = some target) :
    ∃ place, d.locate (ReferenceParts.ofString target).fragment = .ok place ∧
      ∃ result, Inline d place result := by
  cases h with
  | object plain => rw [plain] at htarget; cases htarget
  | reference refers located inlined =>
    rw [refers] at htarget
    cases htarget
    exact ⟨_, located, _, inlined⟩

theorem Task.Awaits.members {d : Document} {path : List String}
    {keywords : Keywords NodeId} (h : (Task.link keywords).Awaits d path) :
    (Task.nodes (Keywords.applied keywords)).Awaits d path := by
  obtain ⟨⟨out, hinline⟩, hbehind⟩ := h
  intro n hn
  have hmem : n.erase ∈ Keywords.applied (eraseEntries keywords) := by
    rw [Keywords.applied_erase]
    exact List.mem_map_of_mem hn
  exact ⟨hinline.exists_applied hmem, hbehind.needs (.applied hmem)⟩

/-- A reference whose target has an inlining is not circular. -/
theorem Task.Awaits.not_circular {d : Document} {scope : Scope}
    {reference : Reference} (hkind : reference.kind = .static)
    (huri : reference.parts.uri = none) (hscope : scope.Within d)
    (h : (Task.reference reference).Awaits d scope.path) :
    scope.onPath (reference.key scope.base) = false ∧
      reference.isSelf scope.view = false := by
  obtain ⟨kind, target⟩ := reference
  subst hkind
  obtain ⟨n, place, hbehind, hneeds, hlocated, out, hinline⟩ := h
  constructor
  · rw [← Bool.not_eq_true, hscope.base]
    intro honpath
    obtain ⟨target', place', hkey, _, hlocated', hleads⟩ :=
      hbehind.path _ (List.contains_iff_mem.mp honpath)
    rw [← localKey_inj hkey] at hlocated'
    have hplace : place = place' := Except.ok.inj (hlocated.symm.trans hlocated')
    subst hplace
    exact hinline.not_needs_self hleads hneeds
  · rw [← Bool.not_eq_true]
    intro hself
    -- a reference to the whole document, from which everything is needed
    simp only [Reference.isSelf, ReferenceParts.isRoot, huri, Option.isNone_none,
      Bool.true_and] at hself
    have hroot : d.locate (Reference.parts ⟨.static, target⟩).fragment = .ok d := by
      cases hfragment : (Reference.parts ⟨.static, target⟩).fragment with
      | none => rfl
      | some fragment =>
        rw [hfragment, Option.getD_some, String.isEmpty_iff] at hself
        subst hself
        rfl
    have hplace : place = d := Except.ok.inj (hlocated.symm.trans hroot)
    subst hplace
    exact hinline.not_needs_self hbehind.root hneeds

/-- With the whole limit in flight, one more reference is too deep: all keys in flight
are different, and each is the key of a reference of the document. -/
theorem Task.Awaits.tooDeep {d : Document} {scope : Scope} {target : String}
    {limit : Nat} (hbase : scope.base = none) (hrefers : d.toJson.RefersTo target)
    (h : (Task.reference ⟨.static, target⟩).Awaits d scope.path)
    (hnodup : scope.path.Nodup) (hlength : scope.path.length = limit)
    (hstraight :
      scope.onPath ((⟨.static, target⟩ : Reference).key scope.base) = false) :
    TooDeep d limit (.tooDeep limit target) := by
  obtain ⟨n, place, hbehind, _⟩ := h
  rw [hbase] at hstraight
  have hnew : localKey target ∉ scope.path := by
    intro hmem
    have honpath : scope.onPath (localKey target) = true :=
      List.contains_iff_mem.mpr hmem
    exact Bool.noConfusion (honpath.symm.trans hstraight)
  refine ⟨⟨target, rfl⟩, localKey target :: scope.path,
    List.nodup_cons.mpr ⟨hnew, hnodup⟩, ?_, ?_⟩
  · rw [List.length_cons, hlength]
  · refine List.forall_mem_cons.mpr ⟨⟨target, rfl, hrefers⟩, fun key hkey => ?_⟩
    obtain ⟨target', _, hkey, hrefers', _⟩ := hbehind.path key hkey
    exact ⟨target', hkey, hrefers'⟩

/-- Once a reference is in flight, its target awaits what the reference did. -/
theorem Task.Awaits.descend {d : Document} {scope : Scope} {target : String}
    (hbase : scope.base = none) (hrefers : d.toJson.RefersTo target)
    (h : (Task.reference ⟨.static, target⟩).Awaits d scope.path) {node : Node}
    (hlocated : d.locate (ReferenceParts.ofString target).fragment =
      .ok node.erase) :
    (Task.node node).Awaits d
      ((⟨.static, target⟩ : Reference).key scope.base :: scope.path) := by
  obtain ⟨n, place, hbehind, hneeds, hlocated', hinline⟩ := h
  obtain rfl : place = node.erase := Except.ok.inj (hlocated'.symm.trans hlocated)
  have hbehind' := hbehind.needs hneeds
  rw [hbase]
  refine ⟨hinline, hbehind'.root, List.forall_mem_cons.mpr ⟨?_, hbehind'.path⟩⟩
  exact ⟨target, _, rfl, hrefers, hlocated, .refl⟩

/-- Where there is an inlining, a walk fails for want of depth alone. -/
theorem Walk.tooDeep_of_error {d : Document} (hlocal : d.toJson.IsLocal)
    (walk : Walk setup Fair hops scope task state result after reach) :
    scope.Within d → task.Inside d → task.Awaits d scope.path → scope.path.Nodup →
      scope.path.length + hops = setup.settings.maxDepth →
        ∀ error, result = .error error →
        TooDeep d setup.settings.maxDepth error := by
  induction walk with
  | bool | recalled | concluded | nil | cons | unreferring | reused | circled
  | expanded =>
    rintro _ _ _ _ _ error ⟨⟩
  | @unlinked _ scope id keywords _ _ _ _ _ link ih =>
    rintro hscope hinside hawaits hnodup hlength error ⟨⟩
    rw [Task.Inside, Schema.erase_object] at hinside
    rw [Task.Awaits, Schema.erase_object] at hawaits
    have hpath : (scope.enter id keywords).path = scope.path :=
      congrArg View.path (scope.view_enter id keywords)
    rw [hpath] at ih
    exact ih (hscope.enter hlocal id hinside) hinside hawaits hnodup hlength _ rfl
  | @unfinished _ scope id keywords _ _ _ _ _ _ _ _ link members _ ih =>
    rintro hscope hinside hawaits hnodup hlength error ⟨⟩
    rw [Task.Inside, Schema.erase_object] at hinside
    rw [Task.Awaits, Schema.erase_object] at hawaits
    have hpath : (scope.enter id keywords).path = scope.path :=
      congrArg View.path (scope.view_enter id keywords)
    rw [hpath] at ih
    exact ih (hscope.enter hlocal id hinside) (.applied hinside)
      (Task.Awaits.members hawaits) hnodup hlength _ rfl
  | headFailed head ih =>
    rintro hscope hinside hawaits hnodup hlength error ⟨⟩
    exact ih hscope (hinside _ List.mem_cons_self) (hawaits _ List.mem_cons_self)
      hnodup hlength _ rfl
  | tailFailed head tail _ ih =>
    rintro hscope hinside hawaits hnodup hlength error ⟨⟩
    exact ih hscope (fun n hn => hinside n (List.mem_cons_of_mem _ hn))
      (fun n hn => hawaits n (List.mem_cons_of_mem _ hn)) hnodup hlength _ rfl
  | @referring _ _ keywords _ reference _ _ _ some follow ih =>
    rintro hscope hinside ⟨⟨out, hinline⟩, hbehind⟩ hnodup hlength error herror
    obtain ⟨heffective, hrefers, hreference⟩ :=
      Task.Inside.effective hlocal hinside some
    rw [heffective] at ih
    rw [← Keywords.string?_erase] at hrefers
    obtain ⟨place, hlocated, hplace⟩ := hinline.exists_place hrefers
    exact ih hscope hreference
      ⟨_, place, hbehind, .place hrefers hlocated, hlocated, hplace⟩ hnodup hlength
      error herror
  | @circular _ scope reference _ fresh circular keeps =>
    rintro hscope ⟨hkind, hrefers⟩ hawaits _ _ error ⟨⟩
    obtain ⟨honpath, hself⟩ := hawaits.not_circular hkind (hrefers.uri hlocal) hscope
    rcases circular with hcircular | ⟨_, hcircular⟩
    · rw [honpath] at hcircular
      cases hcircular
    · rw [hself] at hcircular
      cases hcircular
  | @tooDeep scope reference state fresh straight =>
    rintro hscope ⟨hkind, hrefers⟩ hawaits hnodup hlength error ⟨⟩
    obtain ⟨kind, target⟩ := reference
    subst hkind
    exact hawaits.tooDeep hscope.base hrefers hnodup hlength straight
  | @lost _ scope reference _ _ _ fresh straight route =>
    rintro hscope ⟨hkind, hrefers⟩ ⟨n, place, _, _, hlocated, _⟩ _ _ error ⟨⟩
    have harrives := route.local hscope hkind (hrefers.uri hlocal)
    rw [hlocated] at harrives
    cases harrives
  | @unexpanded hops scope reference state destination run _ _ _ fresh straight
    route target ih =>
    rintro hscope ⟨hkind, hrefers⟩ hawaits hnodup hlength error ⟨⟩
    obtain ⟨hlocated, hinside, hwithin⟩ :=
      route.inside hscope hkind (hrefers.uri hlocal)
    obtain ⟨kind, referred⟩ := reference
    subst hkind
    refine ih (hwithin _) hinside (hawaits.descend hscope.base hrefers hlocated)
      (List.nodup_cons.mpr ⟨?_, hnodup⟩) ?_ _ rfl
    · intro hmem
      simp only [View.circles, Bool.or_eq_false_iff, Scope.view_onPath,
        Scope.view_base] at straight
      rw [Scope.onPath, List.contains_iff_mem.mpr hmem] at straight
      cases straight.1
    · rw [Scope.descend, List.length_cons]
      omega

/-! ## Calls -/

/-- For a local document, and where circular references are failures, dereferencing
is inlining. A result is the inlining of the document. A document that has an
inlining is dereferenced to it, or the limit of the depth is met; and the limit is
not met if it is no smaller than the number of references the document has. -/
theorem dereference_inlines (setup : Setup)
    (hpolicy : setup.settings.cyclePolicy = .error) {session : Session}
    {schemas : List Node} {schema : Node} (h : session.Holds schemas)
    (hschema : schema ∈ schemas) {value : Json}
    (hvalue : Schema.ofJson? value = some schema.erase) (hlocal : value.IsLocal) :
    (∀ report, (dereference setup session schema).result = .ok report →
      Inline schema.erase schema.erase report.schema.erase) ∧
    (∀ out, Inline schema.erase schema.erase out →
      (∃ report, (dereference setup session schema).result = .ok report ∧
        report.schema.erase = out) ∨
      ∃ target, (dereference setup session schema).result =
        .error (.tooDeep setup.settings.maxDepth target)) ∧
    (∀ out, Inline schema.erase schema.erase out →
      ∀ targets : List String, (∀ target, value.RefersTo target → target ∈ targets) →
        targets.length ≤ setup.settings.maxDepth →
        ∃ report, (dereference setup session schema).result = .ok report ∧
          report.schema.erase = out) := by
  have hkeeps : setup.settings.cyclePolicy.keepsEdges = false := by
    rw [hpolicy]
    rfl
  have hjson : schema.erase.toJson = value := Schema.toJson_of_ofJson? hvalue
  subst hjson
  obtain ⟨outcome, after, reach, walk, _, _⟩ := exists_callWalk setup h hschema
  rw [walk.dereference_eq]
  have hscope : (Scope.start schema none).Within schema.erase := ⟨rfl, rfl⟩
  have hinside : (Task.node schema).Inside schema.erase := List.Subset.refl _
  have hbegin : (setup.begin session schema).Inlined schema.erase :=
    fun note hnote => absurd hnote List.not_mem_nil
  cases outcome with
  | ok node =>
    have hnode : Inline schema.erase schema.erase node.erase :=
      (Walk.inlined hlocal hkeeps walk hscope hinside hbegin _ rfl).2
    have hfound : ∀ out, Inline schema.erase schema.erase out → node.erase = out :=
      fun out hout => hnode.deterministic hout
    refine ⟨?_, fun out hout => .inl ⟨_, rfl, hfound out hout⟩,
      fun out hout targets _ _ => ⟨_, rfl, hfound out hout⟩⟩
    rintro report ⟨⟩
    exact hnode
  | error error =>
    have hfails : ∀ out, Inline schema.erase schema.erase out →
        TooDeep schema.erase setup.settings.maxDepth error := by
      intro out hout
      refine Walk.tooDeep_of_error hlocal walk hscope hinside ⟨⟨out, hout⟩, .refl, ?_⟩
        List.nodup_nil (Nat.zero_add _) _ rfl
      exact fun key hkey => absurd hkey List.not_mem_nil
    refine ⟨?_, ?_, ?_⟩
    · rintro report ⟨⟩
    · intro out hout
      obtain ⟨⟨target, rfl⟩, _⟩ := hfails out hout
      exact .inr ⟨target, rfl⟩
    · intro out hout targets htargets hlimit
      obtain ⟨_, keys, hnodup, hlength, hkeys⟩ := hfails out hout
      have hsubset : keys ⊆ targets.map localKey := by
        intro key hkey
        obtain ⟨target, rfl, hrefers⟩ := hkeys key hkey
        exact List.mem_map_of_mem (htargets target hrefers)
      have hle := (List.subperm_of_subset hnodup hsubset).length_le
      rw [List.length_map] at hle
      omega

/-- A property that refers to a definition with a title, and has a title of its own. -/
def titledProperty : Json :=
  .obj [("$defs",
    .obj [("name", .obj [("title", .str "Name"), ("type", .str "string")])]),
    ("properties",
      .obj [("first",
        .obj [("$ref", .str "#/$defs/name"), ("title", .str "First")])])]

/-- The same as a schema. -/
def titledSchema : Document := (Schema.ofJson? titledProperty).getD (.bool true)

theorem dereference_inlines_titledProperty :
    ∃ report : Report,
      (dereference ⟨{}, .none⟩ (Session.empty.mint titledSchema).2
        (Session.empty.mint titledSchema).1).result = .ok report ∧
      report.schema.erase.keyword? "properties" =
        some (.map [("first", .schema (.object ()
        [("title", .value (.str "First")), ("type", .value (.str "string"))]))]) ∧
      Inline (Session.empty.mint titledSchema).1.erase
        (Session.empty.mint titledSchema).1.erase report.schema.erase := by
  have hlocal : titledProperty.IsLocal := by decide +kernel
  refine ⟨_, rfl, rfl, ?_⟩
  have hvalue : Schema.ofJson? titledProperty =
      some (Session.empty.mint titledSchema).1.erase := rfl
  exact (dereference_inlines ⟨{}, .none⟩ rfl (Session.holds_empty.mint titledSchema)
    List.mem_cons_self hvalue hlocal).1 _ rfl

end SchemaDeref
