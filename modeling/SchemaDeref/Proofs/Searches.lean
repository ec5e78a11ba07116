import Mathlib.Data.Set.Card
import SchemaDeref.Proofs.Circles

/-!
# The search for circles ends

The calls of the search, in their order (`Document.calls`), whatever its budget.
Each is for a pointer that leads to its place in the document, and no pointer is
expanded twice, as one that is expanded is visited for all calls after it. Only so
many pointers lead anywhere, so with a budget above their number the calls are all
there, and finitely many (`circles_search_ends`).
-/

namespace SchemaDeref

/-! ## Calls -/

/-- A call of the search: for a place, with the pointers on the way to it, last
first, and with what has been met before. -/
structure Visit where
  way : List String
  pointer : String
  schema : Document
  search : Search

/-- Whether the call expands its pointer: it is not on the way and has not been
visited. -/
def Visit.expands (call : Visit) : Bool :=
  !(call.way.contains call.pointer || call.search.visited.contains call.pointer)

theorem Visit.expands_iff {call : Visit} :
    call.expands = true ↔ call.pointer ∉ call.way ∧ call.pointer ∉
      call.search.visited := by
  simp [expands]

/-- The pointers that are expanded by calls. -/
def expanded (calls : List Visit) : List String :=
  (calls.filter Visit.expands).map Visit.pointer

theorem expanded_append (calls more : List Visit) :
    expanded (calls ++ more) = expanded calls ++ expanded more := by
  rw [expanded, List.filter_append, List.map_append]
  rfl

/-- The search with one pointer more that is visited. -/
def Search.mark (search : Search) (pointer : String) : Search :=
  { search with visited := pointer :: search.visited }

/-- The calls for places one after the other, each with what the ones before it
leave behind. -/
def callsAlong (visit : Search → String × Document → Option Search)
    (calls : Search → String × Document → List Visit) :
    List (String × Document) → Search → List Visit
  | [], _ => []
  | place :: rest, search =>
    calls search place ++
      match visit search place with
      | some after => callsAlong visit calls rest after
      | none => []

namespace Document

/-- The places one step from a place. -/
def placesFrom (d : Document) (pointer : String) : Document → List (String × Document)
  | .bool _ => []
  | .object _ keywords => d.successors pointer keywords

/-- The calls that a visit makes, itself first, as far as the budget lasts. -/
def calls (d : Document) : Nat → List String → String × Document → Search → List Visit
  | 0, _, _, _ => []
  | budget + 1, way, (pointer, schema), search =>
    ⟨way, pointer, schema, search⟩ ::
      if way.contains pointer || search.visited.contains pointer then []
      else
        callsAlong (fun search place => d.visit budget (pointer :: way) place search)
          (fun search place => d.calls budget (pointer :: way) place search)
          (d.placesFrom pointer schema) (search.mark pointer)

/-- The calls of the search from the root. -/
def searchCalls (d : Document) (budget : Nat) : List Visit :=
  d.calls budget [] ("#", d) ⟨[], []⟩

variable {value : Json} {d : Document}

theorem mem_placesFrom (hd : Schema.ofJson? value = some d)
    (hwell : value.WellFormed) {p : String} {s : Document} (here : d.at p = .ok s)
    {place : String × Document} (h : place ∈ d.placesFrom p s) :
    d.Leads p place.1 ∧ d.at place.1 = .ok place.2 := by
  cases s with
  | bool b => exact absurd h List.not_mem_nil
  | object mark keywords => exact mem_successors hd hwell here h

section

variable {budget : Nat} {way : List String} {p : String} {s : Document}
  {search : Search}

theorem visit_of_mem_way (h : p ∈ way) : d.visit (budget + 1) way (p, s) search =
    some { search with found := Search.circle way p :: search.found } := by
  rw [visit, if_pos (List.contains_iff_mem.mpr h)]

theorem visit_of_visited (hway : p ∉ way) (h : p ∈ search.visited) :
    d.visit (budget + 1) way (p, s) search = some search := by
  rw [visit, if_neg (mt List.contains_iff_mem.mp hway),
    if_pos (List.contains_iff_mem.mpr h)]

theorem visit_of_fresh (hway : p ∉ way) (h : p ∉ search.visited) :
    d.visit (budget + 1) way (p, s) search = (d.placesFrom p s).foldlM
      (fun search place => d.visit budget (p :: way) place search)
      (search.mark p) := by
  rw [visit, if_neg (mt List.contains_iff_mem.mp hway),
    if_neg (mt List.contains_iff_mem.mp h)]
  cases s <;> rfl

theorem calls_of_met (h : p ∈ way ∨ p ∈ search.visited) :
    d.calls (budget + 1) way (p, s) search = [⟨way, p, s, search⟩] := by
  rw [calls, if_pos (by simpa using h)]

theorem calls_of_fresh (hway : p ∉ way) (h : p ∉ search.visited) :
    d.calls (budget + 1) way (p, s) search = ⟨way, p, s, search⟩ ::
      callsAlong (fun search place => d.visit budget (p :: way) place search)
        (fun search place => d.calls budget (p :: way) place search)
        (d.placesFrom p s) (search.mark p) := by
  rw [calls, if_neg (by simpa using ⟨hway, h⟩)]

end

/-! ## Where calls are -/

/-- What holds of the calls for each place holds of the calls along places. -/
theorem forall_callsAlong {P : Visit → Prop}
    {visit : Search → String × Document → Option Search}
    {calls : Search → String × Document → List Visit}
    {places : List (String × Document)}
    (h : ∀ place ∈ places, ∀ search, ∀ call ∈ calls search place, P call)
    (search : Search) :
    ∀ call ∈ callsAlong visit calls places search, P call := by
  induction places generalizing search with
  | nil => exact fun _ hcall => absurd hcall List.not_mem_nil
  | cons place rest ih =>
    obtain ⟨hplace, hrest⟩ := List.forall_mem_cons.mp h
    rw [callsAlong]
    refine List.forall_mem_append.mpr ⟨hplace search, ?_⟩
    cases visit search place with
    | none => exact fun _ hcall => absurd hcall List.not_mem_nil
    | some after => exact ih hrest after

/-- Every call is at the end of its way, and its pointer leads to its place. -/
theorem way_of_mem_calls (hd : Schema.ofJson? value = some d)
    (hwell : value.WellFormed) (budget : Nat) :
    ∀ (way : List String) (place : String × Document) (search : Search),
      d.Way way place.1 → d.at place.1 = .ok place.2 →
      ∀ call ∈ d.calls budget way place search,
        d.Way call.way call.pointer ∧ d.at call.pointer = .ok call.schema := by
  induction budget with
  | zero => exact fun _ _ _ _ _ _ hcall => absurd hcall List.not_mem_nil
  | succ budget ih =>
    rintro way ⟨p, s⟩ search hway here
    by_cases hmet : p ∈ way ∨ p ∈ search.visited
    · rw [calls_of_met hmet]
      exact List.forall_mem_singleton.mpr ⟨hway, here⟩
    · obtain ⟨new, fresh⟩ := not_or.mp hmet
      rw [calls_of_fresh new fresh]
      refine List.forall_mem_cons.mpr ⟨⟨hway, here⟩, forall_callsAlong ?_ _⟩
      intro place hplace search
      obtain ⟨leads, there⟩ := mem_placesFrom hd hwell here hplace
      exact ih (p :: way) place search (hway.step new leads) there

/-! ## What is expanded -/

/-- That no pointer is expanded twice or after it was visited, and that the search
goes on with these pointers as visited. -/
structure Marks (calls : List Visit) (search : Search) (outcome : Option Search) :
    Prop where
  nodup : (expanded calls).Nodup
  fresh : ∀ pointer ∈ expanded calls, pointer ∉ search.visited
  visited : ∀ after ∈ outcome, after.visited = (expanded calls).reverse ++
    search.visited

namespace Marks

variable {calls more : List Visit} {search : Search} {outcome : Option Search}

/-- Where nothing is expanded, nothing new is visited. -/
theorem of_expanded_eq_nil (h : expanded calls = [])
    (hvisited : ∀ after ∈ outcome, after.visited = search.visited) :
    Marks calls search outcome := by
  constructor
  · rw [h]
    exact List.nodup_nil
  · rw [h]
    exact fun _ hpointer => absurd hpointer List.not_mem_nil
  · rw [h]
    exact hvisited

theorem append {middle : Search} (h : Marks calls search (some middle))
    (hmore : Marks more middle outcome) : Marks (calls ++ more) search outcome := by
  have hmiddle := h.visited middle rfl
  have hnew : ∀ pointer ∈ expanded more, pointer ∉ expanded calls ∧ pointer ∉
      search.visited := by
    intro pointer hpointer
    have hfresh := hmore.fresh pointer hpointer
    rw [hmiddle, List.mem_append, List.mem_reverse, not_or] at hfresh
    exact hfresh
  constructor
  · rw [expanded_append]
    refine List.nodup_append'.mpr ⟨h.nodup, hmore.nodup,
      fun pointer hone hother => ?_⟩
    exact (hnew pointer hother).1 hone
  · rw [expanded_append]
    exact List.forall_mem_append.mpr
      ⟨h.fresh, fun pointer hpointer => (hnew pointer hpointer).2⟩
  · intro after hafter
    rw [hmore.visited after hafter, hmiddle, expanded_append, List.reverse_append,
      List.append_assoc]

/-- A call that expands its pointer visits it first. -/
theorem cons {call : Visit} (hexpands : call.expands = true)
    (h : Marks calls (call.search.mark call.pointer) outcome) :
    Marks (call :: calls) call.search outcome := by
  have hone : expanded [call] = [call.pointer] := by simp [expanded, hexpands]
  have hcall : Marks [call] call.search (some (call.search.mark call.pointer)) := by
    constructor
    · rw [hone]
      exact List.nodup_singleton _
    · rw [hone]
      exact List.forall_mem_singleton.mpr (Visit.expands_iff.mp hexpands).2
    · rw [hone]
      rintro after ⟨⟩
      rfl
  exact hcall.append h

/-- If each visit visits what it expands, so do visits one after the other. -/
theorem along {visit : Search → String × Document → Option Search}
    {calls : Search → String × Document → List Visit}
    (h : ∀ search place, Marks (calls search place) search (visit search place))
    (places : List (String × Document)) (search : Search) :
    Marks (callsAlong visit calls places search) search
      (places.foldlM visit search) := by
  induction places generalizing search with
  | nil =>
    exact of_expanded_eq_nil rfl fun after hafter => Option.some.inj hafter ▸ rfl
  | cons place rest ih =>
    have hplace := h search place
    rw [callsAlong, List.foldlM_cons]
    cases hvisit : visit search place with
    | none =>
      rw [hvisit] at hplace
      rw [List.append_nil]
      exact hplace
    | some middle =>
      rw [hvisit] at hplace
      exact hplace.append (ih middle)

end Marks

theorem marks_calls (budget : Nat) : ∀ (way : List String) (place : String × Document)
    (search : Search), Marks (d.calls budget way place search) search
      (d.visit budget way place search) := by
  induction budget with
  | zero =>
    exact fun _ _ _ => .of_expanded_eq_nil rfl fun _ hafter =>
      absurd hafter (by simp [visit])
  | succ budget ih =>
    rintro way ⟨p, s⟩ search
    have hone : p ∈ way ∨ p ∈ search.visited →
        expanded [⟨way, p, s, search⟩] = [] := by
      intro hmet
      have hexpands : ¬ Visit.expands ⟨way, p, s, search⟩ = true := by
        rw [Visit.expands_iff, ← not_or, not_not]
        exact hmet
      simp [expanded, hexpands]
    by_cases met : p ∈ way
    · rw [calls_of_met (.inl met), visit_of_mem_way met]
      exact .of_expanded_eq_nil (hone (.inl met)) fun after hafter =>
        Option.some.inj hafter ▸ rfl
    · by_cases seen : p ∈ search.visited
      · rw [calls_of_met (.inr seen), visit_of_visited met seen]
        exact .of_expanded_eq_nil (hone (.inr seen))
          fun after hafter => Option.some.inj hafter ▸ rfl
      · rw [calls_of_fresh met seen, visit_of_fresh met seen]
        have hexpands : Visit.expands ⟨way, p, s, search⟩ = true :=
          Visit.expands_iff.mpr ⟨met, seen⟩
        exact .cons hexpands
          (.along (fun search place => ih (p :: way) place search) _ _)

/-! ## The budget -/

/-- Visits that go on with other visits, making the same calls, do so one after the
other too. -/
theorem foldlM_of_visits {visit visit' : Search → String × Document → Option Search}
    {calls calls' : Search → String × Document → List Visit}
    (h : ∀ search place after, visit search place = some after →
      visit' search place = some after ∧ calls' search place = calls search place)
    {places : List (String × Document)} {search after : Search}
    (hafter : places.foldlM visit search = some after) :
    places.foldlM visit' search = some after ∧
      callsAlong visit' calls' places search = callsAlong visit calls places
        search := by
  induction places generalizing search with
  | nil => exact ⟨hafter, rfl⟩
  | cons place rest ih =>
    rw [List.foldlM_cons] at hafter ⊢
    obtain ⟨middle, hvisit, hrest⟩ := Option.bind_eq_some_iff.mp hafter
    obtain ⟨hvisit', hcalls⟩ := h search place middle hvisit
    obtain ⟨hrest', halong⟩ := ih hrest
    rw [hvisit']
    refine ⟨hrest', ?_⟩
    simp only [callsAlong, hvisit, hvisit', hcalls, halong]

/-- A visit that its budget suffices for goes the same with one more. -/
theorem visit_succ (budget : Nat) : ∀ (way : List String) (place : String × Document)
    (search after : Search), d.visit budget way place search = some after →
      d.visit (budget + 1) way place search = some after ∧
        d.calls (budget + 1) way place search = d.calls budget way place search := by
  induction budget with
  | zero => exact fun _ _ _ _ h => absurd h (by simp [visit])
  | succ budget ih =>
    rintro way ⟨p, s⟩ search after h
    by_cases met : p ∈ way
    · rw [visit_of_mem_way met] at h ⊢
      rw [calls_of_met (.inl met), calls_of_met (.inl met)]
      exact ⟨h, rfl⟩
    · by_cases seen : p ∈ search.visited
      · rw [visit_of_visited met seen] at h ⊢
        rw [calls_of_met (.inr seen), calls_of_met (.inr seen)]
        exact ⟨h, rfl⟩
      · rw [visit_of_fresh met seen] at h ⊢
        rw [calls_of_fresh met seen, calls_of_fresh met seen]
        obtain ⟨hvisit, hcalls⟩ :=
          foldlM_of_visits (fun search place after =>
            ih (p :: way) place search after) h
        exact ⟨hvisit, congrArg _ hcalls⟩

theorem visit_of_le {budget more : Nat} (hle : budget ≤ more) {way : List String}
    {place : String × Document} {search after : Search}
    (h : d.visit budget way place search = some after) :
    d.visit more way place search = some after ∧
      d.calls more way place search = d.calls budget way place search := by
  induction more, hle using Nat.le_induction with
  | base => exact ⟨h, rfl⟩
  | succ more hle ih =>
    obtain ⟨hvisit, hcalls⟩ := visit_succ more way place search after ih.1
    exact ⟨hvisit, hcalls.trans ih.2⟩

/-! ## The end of the search -/

/-- Only so many pointers lead anywhere in a document. -/
theorem encard_pointers_le (hd : Schema.ofJson? value = some d) :
    {pointer | ∃ s, d.at pointer = .ok s}.encard ≤ d.pointers := by
  by_contra hlt
  -- otherwise one more of them could be listed
  obtain ⟨pointers, hsub, hencard⟩ := Set.exists_subset_encard_eq
    (Order.add_one_le_of_lt (not_le.mp hlt))
  have hfinite : pointers.Finite := Set.finite_of_encard_eq_coe hencard
  have hcard : hfinite.toFinset.card = d.pointers + 1 :=
    Nat.cast_inj.mp (hfinite.encard_eq_coe_toFinset_card.symm.trans hencard)
  have hle := length_le_pointers hd hfinite.toFinset.nodup_toList
      fun pointer hpointer =>
    hsub (hfinite.mem_toFinset.mp (Finset.mem_toList.mp hpointer))
  rw [Finset.length_toList, hcard] at hle
  omega

/-- The search for circles ends. Whatever its budget, each of its calls is for a
pointer that leads to the place of the call in the document, no more calls than
there are such pointers are open around it, only finitely many pointers lead
anywhere, and none is expanded twice. So the calls are finitely many: with every
budget above the number of pointers the search comes to its end, by the same calls
and with the circles that are reported, and what it has visited then is what the
calls expand. -/
theorem circles_search_ends (hd : Schema.ofJson? value = some d)
    (hwell : value.WellFormed) :
    (∀ budget, ∀ call ∈ d.searchCalls budget,
      d.at call.pointer = .ok call.schema ∧ call.way.length ≤ d.pointers) ∧
    {pointer | ∃ s, d.at pointer = .ok s}.Finite ∧
    (∀ budget, (expanded (d.searchCalls budget)).Nodup) ∧
    ∃ calls after, d.circles = after.found.reverse ∧
      after.visited = (expanded calls).reverse ∧
      ∀ budget > d.pointers,
        d.searchCalls budget = calls ∧
          d.visit budget [] ("#", d) ⟨[], []⟩ = some after := by
  refine ⟨?_, ?_, ?_, ?_⟩
  · intro budget call hcall
    obtain ⟨hway, here⟩ :=
      way_of_mem_calls hd hwell budget [] ("#", d) _ .root (at_root d) call hcall
    exact ⟨here, length_le_pointers hd hway.nodup hway.exists_at⟩
  · exact Set.finite_of_encard_le_coe (encard_pointers_le hd)
  · exact fun budget => (marks_calls budget [] ("#", d) _).nodup
  · obtain ⟨after, hvisit, _⟩ :=
      exists_tour_visit hd hwell (d.pointers + 1) [] ("#", d) ⟨[], []⟩
      .root (at_root d) rfl
    have hvisited :=
      (marks_calls (d.pointers + 1) [] ("#", d) ⟨[], []⟩).visited after hvisit
    rw [List.append_nil] at hvisited
    refine ⟨d.searchCalls (d.pointers + 1), after,
      by rw [circles, hvisit], hvisited, ?_⟩
    intro budget hbudget
    obtain ⟨hmore, hcalls⟩ := visit_of_le (Nat.succ_le_of_lt hbudget) hvisit
    exact ⟨hcalls, hmore⟩

end Document

/-- Two definitions that refer to each other, by pointers that are written in
different ways. -/
def spelledDefinitions : Json :=
  .obj [("$defs", .obj [("a", .obj [("$ref", .str "b")]),
    ("b", .obj [("$ref", .str "#$defs/a")])])]

/-- The same as a schema. -/
def spelledSchema : Document := (Schema.ofJson? spelledDefinitions).getD (.bool true)

theorem circles_search_ends_spelledDefinitions :
    expanded (spelledSchema.searchCalls 6) =
      ["#", "#/$defs/a", "#/$defs/b", "#$defs/a", "#$defs/b"] ∧
    ∃ calls after, spelledSchema.circles = after.found.reverse ∧
      after.visited = (expanded calls).reverse ∧ ∀ budget > spelledSchema.pointers,
        spelledSchema.searchCalls budget = calls ∧
          spelledSchema.visit budget [] ("#", spelledSchema) ⟨[], []⟩ =
            some after := by
  have hvalue : Schema.ofJson? spelledDefinitions = some spelledSchema := rfl
  have hwell : spelledDefinitions.WellFormed := by decide +kernel
  exact ⟨by decide +kernel, (Document.circles_search_ends hvalue hwell).2.2.2⟩

end SchemaDeref
