import Mathlib.Data.List.Chain
import Mathlib.Logic.Relation
import SchemaDeref.Proofs.Spellings

/-!
# Circular paths are found

The search for circular paths against the graph it walks: a pointer that leads to an
object leads on to the pointers of its subschemas and, if it leads anywhere, to the
one its `$ref` stands for. What the search reports are circles of that graph, and it
reports none only if none can be reached from the root (`Document.circles_exact`). A
tour (`Document.Tour`) is a run of the search that its budget suffices for, and
every run is one (`Document.exists_tour`).
-/

namespace SchemaDeref

namespace Document

/-! ## The graph -/

/-- The first pointer leads on to the second. -/
inductive Leads (d : Document) : String → String → Prop
  | subschema {pointer : String} {keywords : Keywords Unit} {sub : Subschema Unit}
    (here : d.at pointer = .ok (.object () keywords))
    (mem : sub ∈ Keywords.subschemas keywords) :
    Leads d pointer (pointer ++ "/" ++ sub.pointer)
  | reference {pointer target : String} {keywords : Keywords Unit} {place : Document}
    (here : d.at pointer = .ok (.object () keywords))
    (refers : Keywords.string? keywords ReferenceKind.static.keyword = some target)
    (there : d.at (Pointer.beside pointer target) = .ok place) :
    Leads d pointer (Pointer.beside pointer target)

/-- Pointers that lead round in a circle, reached from the root. -/
structure IsCircle (d : Document) (circle : Circle) : Prop where
  nonempty : circle ≠ []
  distinct : circle.Nodup
  reached : ∀ pointer ∈ circle, Relation.ReflTransGen d.Leads "#" pointer
  linked : circle.IsChain d.Leads
  closed : ∀ last ∈ circle.getLast?, ∀ first ∈ circle.head?, d.Leads last first

theorem at_root (d : Document) : d.at "#" = .ok d := rfl

variable {value : Json} {d : Document}

theorem Leads.exists_object {p q : String} (h : d.Leads p q) :
    ∃ keywords, d.at p = .ok (.object () keywords) := by
  cases h with
  | subschema here mem => exact ⟨_, here⟩
  | reference here refers there => exact ⟨_, here⟩

/-- The places one step from an object are where its pointer leads. -/
theorem mem_successors (hd : Schema.ofJson? value = some d)
    (hwell : value.WellFormed) {p : String} {keywords : Keywords Unit}
    (here : d.at p = .ok (.object () keywords)) {place : String × Document}
    (h : place ∈ d.successors p keywords) :
    d.Leads p place.1 ∧ d.at place.1 = .ok place.2 := by
  rw [successors, List.mem_append] at h
  rcases h with h | h
  · rw [Option.mem_toList, referred?] at h
    obtain ⟨target, refers, h⟩ := Option.bind_eq_some_iff.mp h
    cases there : d.at (Pointer.beside p target) with
    | error error =>
      simp only [there] at h
      cases h
    | ok s =>
      simp only [there] at h
      cases h
      exact ⟨.reference here refers there, there⟩
  · obtain ⟨sub, mem, rfl⟩ := List.mem_map.mp h
    exact ⟨.subschema here mem, Schema.at_subschema hd hwell here mem⟩

theorem Leads.exists_mem_successors {p q : String} (h : d.Leads p q)
    {keywords : Keywords Unit} (here : d.at p = .ok (.object () keywords)) :
    ∃ s, (q, s) ∈ d.successors p keywords := by
  cases h with
  | subschema here' mem =>
    rw [here] at here'
    cases here'
    exact ⟨_, List.mem_append_right _ (List.mem_map_of_mem mem)⟩
  | @reference target _ place here' refers there =>
    rw [here] at here'
    cases here'
    have hreferred : d.referred? p keywords =
        some (Pointer.beside p target, place) := by
      rw [referred?, refers]
      simp only [Option.bind_eq_bind, Option.bind_some, there]
    exact ⟨place, List.mem_append_left _ (Option.mem_toList.mpr hreferred)⟩

/-! ## The way to a place -/

/-- The pointers on the way from the root to a pointer, last first, all different. -/
inductive Way (d : Document) : List String → String → Prop
  | root : Way d [] "#"
  | step {way : List String} {p q : String} (front : Way d way p) (new : p ∉ way)
    (leads : d.Leads p q) : Way d (p :: way) q

/-- A list parts at the first place where it has an element. -/
theorem exists_split_of_mem {q : String} {way : List String} (h : q ∈ way) :
    ∃ back, way = way.takeWhile (· != q) ++ q :: back := by
  induction way with
  | nil => cases h
  | cons p way ih =>
    by_cases hp : p = q
    · subst hp
      exact ⟨way, by simp⟩
    · obtain ⟨back, heq⟩ := ih ((List.mem_cons.mp h).resolve_left (Ne.symm hp))
      refine ⟨back, ?_⟩
      rw [List.takeWhile_cons_of_pos (by simpa using hp), List.cons_append, ← heq]

namespace Way

variable {way : List String} {q : String}

theorem nodup (h : d.Way way q) : way.Nodup := by
  induction h with
  | root => exact List.nodup_nil
  | step front new leads ih => exact List.nodup_cons.mpr ⟨new, ih⟩

theorem exists_at (h : d.Way way q) : ∀ p ∈ way, ∃ s, d.at p = .ok s := by
  induction h with
  | root => simp
  | step front new leads ih =>
    obtain ⟨keywords, here⟩ := leads.exists_object
    exact List.forall_mem_cons.mpr ⟨⟨_, here⟩, ih⟩

theorem reached (h : d.Way way q) : Relation.ReflTransGen d.Leads "#" q := by
  induction h with
  | root => exact .refl
  | step front new leads ih => exact ih.tail leads

theorem reached_of_mem (h : d.Way way q) :
    ∀ p ∈ way, Relation.ReflTransGen d.Leads "#" p := by
  induction h with
  | root => simp
  | step front new leads ih => exact List.forall_mem_cons.mpr ⟨front.reached, ih⟩

/-- From any pointer on the way the rest of the way leads on. -/
theorem isChain {front back : List String} {p : String}
    (h : d.Way (front ++ p :: back) q) :
    (p :: front.reverse ++ [q]).IsChain d.Leads := by
  induction front generalizing q with
  | nil =>
    cases h with
    | step _ _ leads => simpa using leads
  | cons f front ih =>
    cases h with
    | step before new leads =>
      have hbefore := ih before
      rw [List.reverse_cons, ← List.cons_append]
      refine List.isChain_append.mpr ⟨hbefore, List.isChain_singleton q, ?_⟩
      intro last hlast first hfirst
      rw [List.getLast?_concat] at hlast
      cases hlast
      cases hfirst
      exact leads

/-- A way that comes back to one of its pointers closes a circle. -/
theorem isCircle (h : d.Way way q) (met : q ∈ way) :
    d.IsCircle (Search.circle way q) := by
  obtain ⟨back, hsplit⟩ := exists_split_of_mem met
  rw [Search.circle]
  generalize way.takeWhile (· != q) = front at hsplit ⊢
  subst hsplit
  obtain ⟨linked, _, closed⟩ := List.isChain_append.mp h.isChain
  have hdistinct : (q :: front).Nodup := by
    have hnodup := List.nodup_append.mp h.nodup
    refine List.nodup_cons.mpr ⟨fun hq => ?_, hnodup.1⟩
    exact hnodup.2.2 q hq q List.mem_cons_self rfl
  refine ⟨List.cons_ne_nil _ _, ?_, ?_, linked, fun last hlast first hfirst => ?_⟩
  · rw [List.nodup_cons, List.mem_reverse, List.nodup_reverse]
    exact List.nodup_cons.mp hdistinct
  · refine List.forall_mem_cons.mpr ⟨h.reached, fun p hp => ?_⟩
    exact h.reached_of_mem p (List.mem_append_left _ (List.mem_reverse.mp hp))
  · cases hfirst
    exact closed last hlast q rfl

end Way

/-! ## Tours -/

/-- A run of the search over places, on the way to all of which these pointers lie. -/
inductive Tour (d : Document) :
    List String → List (String × Document) → Search → Search → Prop
  | nil {way search} : Tour d way [] search search
  | closed {way p s rest search after} (met : p ∈ way)
    (tail : Tour d way rest { search with
      found := Search.circle way p :: search.found } after) :
    Tour d way ((p, s) :: rest) search after
  | seen {way p s rest search after} (new : p ∉ way) (seen : p ∈ search.visited)
    (tail : Tour d way rest search after) : Tour d way ((p, s) :: rest) search after
  | bool {way p b rest search after} (new : p ∉ way) (fresh : p ∉ search.visited)
    (tail : Tour d way rest { search with visited := p :: search.visited } after) :
    Tour d way ((p, .bool b) :: rest) search after
  | object {way p keywords rest search middle after} (new : p ∉ way)
    (fresh : p ∉ search.visited)
    (inner : Tour d (p :: way) (d.successors p keywords)
      { search with visited := p :: search.visited } middle)
    (tail : Tour d way rest middle after) :
    Tour d way ((p, .object () keywords) :: rest) search after

theorem Tour.cons {way : List String} {place : String × Document}
    {rest : List (String × Document)} {search middle after : Search}
    (head : d.Tour way [place] search middle)
    (tail : d.Tour way rest middle after) :
    d.Tour way (place :: rest) search after := by
  cases head with
  | closed met last =>
    cases last
    exact .closed met tail
  | seen new seen last =>
    cases last
    exact .seen new seen tail
  | bool new fresh last =>
    cases last
    exact .bool new fresh tail
  | object new fresh inner last =>
    cases last
    exact .object new fresh inner tail

/-- Visiting places one after the other is a tour if each visit is. -/
theorem exists_tour_foldlM {way : List String}
    {visit : Search → String × Document → Option Search}
    {places : List (String × Document)}
    (h : ∀ place ∈ places, ∀ search, ∃ after, visit search place = some after ∧
      d.Tour way [place] search after) (search : Search) :
    ∃ after, places.foldlM visit search = some after ∧
      d.Tour way places search after := by
  induction places generalizing search with
  | nil => exact ⟨search, rfl, .nil⟩
  | cons place rest ih =>
    obtain ⟨hplace, hrest⟩ := List.forall_mem_cons.mp h
    obtain ⟨middle, hhead, head⟩ := hplace search
    obtain ⟨after, htail, tail⟩ := ih hrest middle
    refine ⟨after, ?_, head.cons tail⟩
    rw [List.foldlM_cons, hhead]
    exact htail

/-- The budget lasts as long as there are pointers left that are not on the way. -/
theorem exists_tour_visit (hd : Schema.ofJson? value = some d)
    (hwell : value.WellFormed) (budget : Nat) :
    ∀ (way : List String) (place : String × Document) (search : Search),
      d.Way way place.1 → d.at place.1 = .ok place.2 →
        budget + way.length = d.pointers + 1 →
      ∃ after, d.visit budget way place search = some after ∧
        d.Tour way [place] search after := by
  induction budget with
  | zero =>
    -- such a way would have more pointers than there are
    intro way place search hway here hbudget
    have hle := Document.length_le_pointers hd hway.nodup hway.exists_at
    omega
  | succ budget ih =>
    rintro way ⟨p, s⟩ search hway here hbudget
    rw [visit]
    by_cases met : p ∈ way
    · rw [if_pos (List.contains_iff_mem.mpr met)]
      exact ⟨_, rfl, .closed met .nil⟩
    · rw [if_neg (mt List.contains_iff_mem.mp met)]
      by_cases seen : p ∈ search.visited
      · rw [if_pos (List.contains_iff_mem.mpr seen)]
        exact ⟨_, rfl, .seen met seen .nil⟩
      · rw [if_neg (mt List.contains_iff_mem.mp seen)]
        cases s with
        | bool b => exact ⟨_, rfl, .bool met seen .nil⟩
        | object mark keywords =>
          have hplaces : ∀ place ∈ d.successors p keywords, ∀ search,
              ∃ after, d.visit budget (p :: way) place search = some after ∧
                d.Tour (p :: way) [place] search after := by
            intro place hplace search
            obtain ⟨leads, there⟩ := mem_successors hd hwell here hplace
            refine ih (p :: way) place search (hway.step met leads) there ?_
            rw [List.length_cons]
            omega
          obtain ⟨after, hfold, inner⟩ := exists_tour_foldlM hplaces
            { search with visited := p :: search.visited }
          exact ⟨after, hfold, .object met seen inner .nil⟩

/-- The search is a tour from the root. -/
theorem exists_tour (hd : Schema.ofJson? value = some d) (hwell : value.WellFormed) :
    ∃ search, d.Tour [] [("#", d)] ⟨[], []⟩ search ∧
      d.circles = search.found.reverse := by
  obtain ⟨search, hvisit, tour⟩ :=
    exists_tour_visit hd hwell (d.pointers + 1) [] ("#", d) ⟨[], []⟩
    .root (at_root d) rfl
  refine ⟨search, tour, ?_⟩
  rw [circles, hvisit]

/-! ## What is found is there -/

/-- Every circle that a tour finds is one. -/
theorem Tour.isCircle (hd : Schema.ofJson? value = some d) (hwell : value.WellFormed)
    {way : List String} {places : List (String × Document)} {search after : Search}
    (tour : d.Tour way places search after) :
    (∀ place ∈ places, d.Way way place.1 ∧ d.at place.1 = .ok place.2) →
      (∀ circle ∈ search.found, d.IsCircle circle) →
        ∀ circle ∈ after.found, d.IsCircle circle := by
  induction tour with
  | nil => exact fun _ h => h
  | closed met tail ih =>
    intro hplaces hfound
    obtain ⟨⟨hway, _⟩, hrest⟩ := List.forall_mem_cons.mp hplaces
    exact ih hrest (List.forall_mem_cons.mpr ⟨hway.isCircle met, hfound⟩)
  | seen new seen tail ih =>
    intro hplaces hfound
    exact ih (List.forall_mem_cons.mp hplaces).2 hfound
  | bool new fresh tail ih =>
    intro hplaces hfound
    exact ih (List.forall_mem_cons.mp hplaces).2 hfound
  | object new fresh inner tail ihinner ihtail =>
    intro hplaces hfound
    obtain ⟨⟨hway, here⟩, hrest⟩ := List.forall_mem_cons.mp hplaces
    refine ihtail hrest (ihinner ?_ hfound)
    intro place hplace
    obtain ⟨leads, there⟩ := mem_successors hd hwell here hplace
    exact ⟨hway.step new leads, there⟩

/-- A circle leads back to where it starts. -/
theorem IsCircle.exists_transGen {circle : Circle} (h : d.IsCircle circle) :
    ∃ p, Relation.ReflTransGen d.Leads "#" p ∧ Relation.TransGen d.Leads p p := by
  obtain ⟨first, rest, rfl⟩ := List.exists_cons_of_ne_nil h.nonempty
  refine ⟨first, h.reached first List.mem_cons_self, ?_⟩
  have hway :=
    List.relationReflTransGen_of_exists_isChain (first :: rest) h.linked (by simp)
  have hback := h.closed _ (List.getLast?_eq_some_getLast (by simp)) first rfl
  exact .tail' hway hback

/-! ## What is there is found -/

/-- Nothing behind the pointer goes round. -/
def Settled (d : Document) (pointer : String) : Prop :=
  Acc (fun q p => d.Leads p q) pointer

theorem Tour.found_subset {way : List String} {places : List (String × Document)}
    {search after : Search} (tour : d.Tour way places search after) :
    search.found ⊆ after.found := by
  induction tour with
  | nil => exact List.Subset.refl _
  | closed met tail ih => exact List.Subset.trans (List.subset_cons_self _ _) ih
  | seen new seen tail ih => exact ih
  | bool new fresh tail ih => exact ih
  | object new fresh inner tail ihinner ihtail =>
    exact List.Subset.trans ihinner ihtail

/-- Where a tour finds nothing, what it has visited is settled, or lies on its way. -/
theorem Tour.settled {way : List String} {places : List (String × Document)}
    {search after : Search} (hd : Schema.ofJson? value = some d)
    (hwell : value.WellFormed) (tour : d.Tour way places search after) :
    after.found = [] → (∀ place ∈ places, d.at place.1 = .ok place.2) →
      (∀ q ∈ search.visited, q ∈ way ∨ d.Settled q) →
      (∀ q ∈ after.visited, q ∈ way ∨ d.Settled q) ∧ ∀ place ∈ places, d.Settled
        place.1 := by
  induction tour with
  | nil => exact fun _ _ hvisited => ⟨hvisited, by simp⟩
  | closed met tail ih =>
    -- what is found stays found
    intro hnone
    have hfound := tail.found_subset List.mem_cons_self
    rw [hnone] at hfound
    cases hfound
  | seen new seen tail ih =>
    intro hnone hplaces hvisited
    obtain ⟨hvisited', hrest⟩ := ih hnone (List.forall_mem_cons.mp hplaces).2 hvisited
    exact ⟨hvisited',
      List.forall_mem_cons.mpr ⟨(hvisited _ seen).resolve_left new, hrest⟩⟩
  | @bool way p b rest search after new fresh tail ih =>
    intro hnone hplaces hvisited
    obtain ⟨here, hplaces⟩ := List.forall_mem_cons.mp hplaces
    have hp : d.Settled p := by
      refine Acc.intro _ fun q leads => ?_
      obtain ⟨keywords, here'⟩ := leads.exists_object
      rw [here] at here'
      cases here'
    obtain ⟨hvisited', hrest⟩ := ih hnone hplaces
      (List.forall_mem_cons.mpr ⟨.inr hp, hvisited⟩)
    exact ⟨hvisited', List.forall_mem_cons.mpr ⟨hp, hrest⟩⟩
  | @object way p keywords rest search middle after new fresh inner tail
    ihinner ihtail =>
    intro hnone hplaces hvisited
    obtain ⟨here, hplaces⟩ := List.forall_mem_cons.mp hplaces
    have hmiddle : middle.found = [] := List.subset_nil.mp (hnone ▸ tail.found_subset)
    have hinner : ∀ q ∈ p :: search.visited, q ∈ p :: way ∨ d.Settled q := by
      refine List.forall_mem_cons.mpr ⟨.inl List.mem_cons_self, fun q hq => ?_⟩
      exact (hvisited q hq).imp_left (List.mem_cons_of_mem p)
    obtain ⟨hvisited', hsuccessors⟩ := ihinner hmiddle
      (fun place hplace => (mem_successors hd hwell here hplace).2) hinner
    have hp : d.Settled p := by
      refine Acc.intro _ fun q leads => ?_
      obtain ⟨s, hmem⟩ := leads.exists_mem_successors here
      exact hsuccessors _ hmem
    -- behind the object the way is shorter by its pointer, which is settled now
    obtain ⟨hafter, hrest⟩ := ihtail hnone hplaces fun q hq => by
      rcases hvisited' q hq with hq | hq
      · rcases List.mem_cons.mp hq with rfl | hq
        · exact .inr hp
        · exact .inl hq
      · exact .inr hq
    exact ⟨hafter, List.forall_mem_cons.mpr ⟨hp, hrest⟩⟩

/-- If the search finds no circle, nothing goes round. -/
theorem settled_of_circles (hd : Schema.ofJson? value = some d)
    (hwell : value.WellFormed) (h : d.circles = []) : d.Settled "#" := by
  obtain ⟨search, tour, hcircles⟩ := exists_tour hd hwell
  have hnone : search.found = [] := List.reverse_eq_nil_iff.mp (hcircles.symm.trans h)
  have hroot : ∀ place ∈ [("#", d)], d.at place.1 = .ok place.2 := by
    simp [at_root]
  exact (tour.settled hd hwell hnone hroot (by simp)).2 _ List.mem_cons_self

theorem Settled.reached {p q : String} (h : d.Settled p)
    (hq : Relation.ReflTransGen d.Leads p q) :
    d.Settled q := by
  induction hq with
  | refl => exact h
  | tail _ leads ih => exact ih.inv leads

theorem Settled.not_transGen {p : String} (h : d.Settled p) :
    ¬ Relation.TransGen d.Leads p p := by
  induction h with
  | intro p _ ih =>
    intro hloop
    -- the loop goes through the next pointer as well
    obtain ⟨q, leads, hback⟩ := Relation.TransGen.head'_iff.mp hloop
    exact ih q leads (.tail' hback leads)

/-- The search is exact: what it reports are circles that are reached from the root,
and it reports none just if none can be reached. -/
theorem circles_exact (hd : Schema.ofJson? value = some d)
    (hwell : value.WellFormed) :
    (∀ circle ∈ d.circles, d.IsCircle circle) ∧
      (d.circles = [] ↔
        ∀ p, Relation.ReflTransGen d.Leads "#" p →
          ¬ Relation.TransGen d.Leads p p) := by
  obtain ⟨search, tour, hcircles⟩ := exists_tour hd hwell
  have hfound : ∀ circle ∈ d.circles, d.IsCircle circle := by
    intro circle hcircle
    rw [hcircles, List.mem_reverse] at hcircle
    refine tour.isCircle hd hwell ?_ (by simp) circle hcircle
    intro place hplace
    rw [List.mem_singleton] at hplace
    subst hplace
    exact ⟨.root, at_root d⟩
  refine ⟨hfound, ?_, ?_⟩
  · intro h p hp
    exact ((settled_of_circles hd hwell h).reached hp).not_transGen
  · intro h
    refine List.eq_nil_iff_forall_not_mem.mpr fun circle hcircle => ?_
    obtain ⟨p, hp, hcycle⟩ := (hfound circle hcircle).exists_transGen
    exact h p hp hcycle

end Document

/-- Two definitions each of which refers to the other. -/
def mutualDefinitions : Json :=
  .obj [("$defs", .obj [("even", .obj [("not", .obj [("$ref", .str "#/$defs/odd")])]),
    ("odd", .obj [("not", .obj [("$ref", .str "#/$defs/even")])])])]

/-- The same as a schema. -/
def mutualSchema : Document := (Schema.ofJson? mutualDefinitions).getD (.bool true)

theorem circles_exact_mutualDefinitions :
    mutualSchema.circles =
      [["#/$defs/even", "#/$defs/even/not", "#/$defs/odd", "#/$defs/odd/not"]] ∧
    mutualSchema.IsCircle ["#/$defs/even", "#/$defs/even/not", "#/$defs/odd",
      "#/$defs/odd/not"] := by
  have hvalue : Schema.ofJson? mutualDefinitions = some mutualSchema := rfl
  have hwell : mutualDefinitions.WellFormed := by decide +kernel
  have hcircles : mutualSchema.circles =
      [["#/$defs/even", "#/$defs/even/not", "#/$defs/odd", "#/$defs/odd/not"]] := by
        decide +kernel
  refine ⟨hcircles, (Document.circles_exact hvalue hwell).1 _ ?_⟩
  rw [hcircles]
  exact List.mem_cons_self

end SchemaDeref
