import SchemaDeref.Proofs.Circles
import SchemaDeref.Proofs.Remains

/-!
# Circles that are found again

A pointer is expanded once, so the circles that end in it are closed there alone,
each as often as its last pointer leads to its first. That is once, unless it leads
there both by a `$ref` and as the pointer of one of its subschemas: these have
pointers of their own (`Keywords.nodup_pointers`). So a circle is found once or, in
that case, twice (`circles_repeat`).
-/

namespace SchemaDeref

variable {ι : Type}

/-! ## The pointers of subschemas -/

/-- The steps to each of these subschemas. -/
def subschemaSteps (subs : List (Subschema ι)) : List (List String) :=
  subs.map fun sub => Pointer.steps sub.pointer

/-- The subschemas stand behind these steps, each in a place of its own. -/
structure StandBehind (front : List String) (subs : List (Subschema ι)) : Prop where
  behind : ∀ steps ∈ subschemaSteps subs, front <+: steps
  nodup : (subschemaSteps subs).Nodup

/-- The subschemas stand behind these steps and one of these tokens, each in a place
of its own. -/
structure StandAmong (front tokens : List String) (subs : List (Subschema ι)) :
    Prop where
  among : ∀ steps ∈ subschemaSteps subs, ∃ token ∈ tokens, front ++ [token] <+: steps
  nodup : (subschemaSteps subs).Nodup

theorem StandBehind.nil {front : List String} :
    StandBehind front ([] : List (Subschema ι)) :=
  ⟨fun _ hsteps => absurd hsteps List.not_mem_nil, List.nodup_nil⟩

namespace StandAmong

variable {front tokens : List String} {subs rest : List (Subschema ι)}

theorem nil : StandAmong front tokens ([] : List (Subschema ι)) :=
  ⟨fun _ hsteps => absurd hsteps List.not_mem_nil, List.nodup_nil⟩

/-- What stands behind another token stands elsewhere. -/
theorem append {token : String} (h : StandBehind (front ++ [token]) subs)
    (hnew : token ∉ tokens) (hrest : StandAmong front tokens rest) :
    StandAmong front (token :: tokens) (subs ++ rest) := by
  have happend : subschemaSteps (subs ++ rest) = subschemaSteps subs ++
      subschemaSteps rest :=
    List.map_append
  constructor
  · rw [happend]
    refine List.forall_mem_append.mpr ⟨fun steps hsteps => ?_, fun steps hsteps => ?_⟩
    · exact ⟨token, List.mem_cons_self, h.behind steps hsteps⟩
    · obtain ⟨other, hother, hprefix⟩ := hrest.among steps hsteps
      exact ⟨other, List.mem_cons_of_mem _ hother, hprefix⟩
  · rw [happend]
    refine List.nodup_append'.mpr ⟨h.nodup, hrest.nodup, fun steps hone hother => ?_⟩
    obtain ⟨other, hmem, hprefix⟩ := hrest.among steps hother
    -- the token behind the front would be both
    have heq :=
      List.prefix_of_prefix_length_le (h.behind steps hone) hprefix (by simp)
    have hsame : front ++ [token] = front ++ [other] := heq.eq_of_length (by simp)
    cases List.append_cancel_left hsame
    exact hnew hmem

theorem behind (h : StandAmong front tokens subs) : StandBehind front subs where
  behind steps hsteps := by
    obtain ⟨token, _, hprefix⟩ := h.among steps hsteps
    exact (List.prefix_append front [token]).trans hprefix
  nodup := h.nodup

end StandAmong

mutual

theorem Keyword.standBehind (name pointer : String) : ∀ keyword : Keyword ι,
    keyword.toJson.WellFormed →
      StandBehind (Pointer.steps pointer) (keyword.subschemas name pointer)
  | .schema s, _ => by
    rw [Keyword.subschemas]
    exact ⟨List.forall_mem_singleton.mpr (List.prefix_refl _), List.nodup_singleton _⟩
  | .list items, h => by
    rw [Keyword.toJson, Json.WellFormed] at h
    rw [Keyword.subschemas]
    exact (standAmongItems name pointer 0 items h.2).behind
  | .map entries, h => by
    rw [Keyword.toJson, Json.WellFormed, Members.names_toJson] at h
    rw [Keyword.subschemas]
    exact (standAmongEntries name pointer entries h.1 h.2).behind
  | .value _, _ => by
    rw [Keyword.subschemas]
    exact .nil

theorem standAmongItems (name pointer : String) (start : Nat) :
    ∀ items : List (Keyword ι),
    Json.WellFormedItems (itemsToJson items) →
      StandAmong (Pointer.steps pointer)
        ((List.range' start items.length).map toString)
        (subschemasOfItems name pointer start items)
  | [], _ => by
    rw [subschemasOfItems]
    exact .nil
  | item :: rest, h => by
    rw [itemsToJson, Json.WellFormedItems] at h
    have hitem := item.standBehind name (pointer ++ "/" ++ toString start) h.1
    rw [Pointer.steps_append, Pointer.steps_toString] at hitem
    rw [subschemasOfItems, List.length_cons, List.range'_succ, List.map_cons]
    refine .append hitem (fun hmem => ?_)
      (standAmongItems name pointer (start + 1) rest h.2)
    obtain ⟨i, hi, heq⟩ := List.mem_map.mp hmem
    have hle := (List.mem_range'_1.mp hi).1
    have hsame := Pointer.toString_inj.mp heq
    omega

theorem standAmongEntries (name pointer : String) :
    ∀ entries : List (String × Keyword ι),
    (Members.names entries).Nodup → Json.WellFormedMembers (entriesToJson entries) →
      StandAmong (Pointer.steps pointer) (Members.names entries)
        (subschemasOfEntries name pointer entries)
  | [], _, _ => by
    rw [subschemasOfEntries]
    exact .nil
  | (key, entry) :: rest, hnames, h => by
    rw [entriesToJson, Json.WellFormedMembers] at h
    rw [Members.names, List.map_cons, List.nodup_cons] at hnames
    have hentry := entry.standBehind name (pointer ++ "/" ++ Pointer.escape key) h.1
    rw [Pointer.steps_append, Pointer.steps_escape] at hentry
    rw [subschemasOfEntries]
    exact .append hentry hnames.1 (standAmongEntries name pointer rest hnames.2 h.2)

end

/-- The subschemas of an object stand in places of their own. -/
theorem Keywords.standAmong {keywords : Keywords ι}
    (hnames : (Members.names keywords).Nodup)
    (h : ∀ entry ∈ keywords, entry.2.toJson.WellFormed) :
    StandAmong [] (Members.names keywords) (Keywords.subschemas keywords) := by
  induction keywords with
  | nil => exact .nil
  | cons entry rest ih =>
    obtain ⟨name, keyword⟩ := entry
    obtain ⟨hkeyword, hrest⟩ := List.forall_mem_cons.mp h
    rw [Members.names, List.map_cons, List.nodup_cons] at hnames
    rw [subschemas, List.flatMap_cons]
    refine .append ?_ hnames.1 (ih hnames.2 hrest)
    have hbehind := keyword.standBehind name (Pointer.escape name) hkeyword
    rw [Pointer.steps_escape] at hbehind
    by_cases hshape : Shape.ofKeyword name = .value
    · simp only [if_pos hshape]
      exact .nil
    · simp only [if_neg hshape]
      exact hbehind

/-- No two subschemas of an object have the same pointer. -/
theorem Keywords.nodup_pointers {mark : ι} {keywords : Keywords ι}
    (h : (Schema.object mark keywords).toJson.WellFormed) :
    ((Keywords.subschemas keywords).map Subschema.pointer).Nodup := by
  obtain ⟨hnames, hwell⟩ := Schema.wellFormed_object h
  refine List.Nodup.of_map Pointer.steps ?_
  rw [List.map_map]
  exact (standAmong hnames hwell).nodup

/-! ## Circles by their last pointer -/

/-- A circle that is closed ends in the pointer that the way has come to. -/
theorem Search.getLast?_circle {way : List String} {pointer : String}
    (met : pointer ∈ way) :
    (circle way pointer).getLast? = way.head? := by
  cases way with
  | nil => exact absurd met List.not_mem_nil
  | cons last rest =>
    by_cases hlast : last = pointer
    · simp [circle, hlast]
    · rw [circle,
        List.takeWhile_cons_of_pos (by simpa using hlast), List.reverse_cons,
        ← List.cons_append, List.getLast?_concat, List.head?_cons]

namespace Document

variable {value : Json} {d : Document}

/-- In how many ways one step leads from a pointer to another. -/
def leadings (d : Document) (pointer target : String) : Nat :=
  match d.at pointer with
  | .ok (.object _ keywords) =>
    ((d.successors pointer keywords).map Prod.fst).count target
  | _ => 0

/-- The circles that pointers close on a way. -/
def closings (way pointers : List String) : List Circle :=
  (pointers.filter way.contains).map (Search.circle way)

theorem closings_of_mem {way : List String} {pointer : String} (h : pointer ∈ way)
    (pointers : List String) :
    closings way (pointer :: pointers) = Search.circle way pointer ::
      closings way pointers := by
  rw [closings, List.filter_cons_of_pos (List.contains_iff_mem.mpr h), List.map_cons]
  rfl

theorem closings_of_not_mem {way : List String} {pointer : String} (h : pointer ∉ way)
    (pointers : List String) :
    closings way (pointer :: pointers) = closings way pointers := by
  rw [closings, List.filter_cons_of_neg (mt List.contains_iff_mem.mp h)]
  rfl

/-- If a circle is closed at all, then by every one of the pointers that is its
first. -/
theorem count_closings {circle : Circle} {first : String}
    (hfirst : circle.head? = some first) (way pointers : List String) :
    (closings way pointers).count circle = 0 ∨
      (closings way pointers).count circle = pointers.count first := by
  by_cases hcloses : first ∈ way ∧ Search.circle way first = circle
  · obtain ⟨hmem, rfl⟩ := hcloses
    refine .inr ?_
    induction pointers with
    | nil => rfl
    | cons pointer rest ih =>
      by_cases hpointer : pointer = first
      · rw [hpointer, closings_of_mem hmem, List.count_cons_self,
          List.count_cons_self, ih]
      · rw [List.count_cons_of_ne hpointer, ← ih]
        by_cases hother : pointer ∈ way
        · have hne : Search.circle way pointer ≠ Search.circle way first :=
            fun heq => hpointer (List.cons.inj heq).1
          rw [closings_of_mem hother, List.count_cons_of_ne hne]
        · rw [closings_of_not_mem hother]
  · refine .inl (List.count_eq_zero.mpr fun hmem => hcloses ?_)
    obtain ⟨pointer, hpointer, rfl⟩ := List.mem_map.mp hmem
    cases hfirst
    exact ⟨List.contains_iff_mem.mp (List.mem_filter.mp hpointer).2, rfl⟩

section

variable {way : List String} {places : List (String × Document)}
  {search after : Search} {circle : Circle} {first last : String}

theorem Tour.visited_subset (tour : d.Tour way places search after) :
    search.visited ⊆ after.visited := by
  induction tour with
  | nil => exact List.Subset.refl _
  | closed met tail ih => exact ih
  | seen new seen tail ih => exact ih
  | bool new fresh tail ih => exact List.Subset.trans (List.subset_cons_self _ _) ih
  | object new fresh inner tail ihinner ihtail =>
    exact List.Subset.trans (List.subset_cons_self _ _)
      (List.Subset.trans ihinner ihtail)

/-- Where the way has not come to the last pointer of a circle, the circle is found
no more times than before if that pointer is not expanded meanwhile. -/
theorem Tour.count_elsewhere (tour : d.Tour way places search after)
    (hlast : circle.getLast? = some last) :
    way.head? ≠ some last → last ∈ search.visited ∨ last ∉ after.visited →
      after.found.count circle = search.found.count circle := by
  induction tour with
  | nil => exact fun _ _ => rfl
  | @closed way p s rest search after met tail ih =>
    intro hway hvisited
    have hne : Search.circle way p ≠ circle := by
      rintro rfl
      exact hway ((Search.getLast?_circle met).symm.trans hlast)
    rw [ih hway hvisited, List.count_cons_of_ne hne]
  | seen new seen tail ih => exact ih
  | bool new fresh tail ih =>
    exact fun hway hvisited => ih hway (hvisited.imp_left (List.mem_cons_of_mem _))
  | @object way p keywords rest search middle after new fresh inner tail
    ihinner ihtail =>
    intro hway hvisited
    have hinner := inner.visited_subset
    have hp : p ≠ last := by
      rintro rfl
      rcases hvisited with hvisited | hvisited
      · exact fresh hvisited
      · exact hvisited (tail.visited_subset (hinner List.mem_cons_self))
    have hbefore : last ∈ p :: search.visited ∨ last ∉ middle.visited :=
      hvisited.imp (List.mem_cons_of_mem _) (mt (tail.visited_subset ·))
    have hafter : last ∈ middle.visited ∨ last ∉ after.visited :=
      hvisited.imp_left fun hmem => hinner (List.mem_cons_of_mem _ hmem)
    rw [ihtail hway hafter, ihinner (by simpa using hp) hbefore]

/-- Where the way has come to the last pointer of a circle, the circle is found
again as often as one of the places closes it. -/
theorem Tour.count_ending (tour : d.Tour way places search after)
    (hlast : circle.getLast? = some last) :
    way.head? = some last → way ⊆ search.visited →
      after.found.count circle =
        search.found.count circle + (closings way (places.map Prod.fst)).count
          circle := by
  induction tour with
  | nil => exact fun _ _ => rfl
  | closed met tail ih =>
    intro hway hsub
    rw [ih hway hsub, List.map_cons, closings_of_mem met, List.count_cons,
      List.count_cons]
    omega
  | seen new seen tail ih =>
    intro hway hsub
    rw [ih hway hsub, List.map_cons, closings_of_not_mem new]
  | bool new fresh tail ih =>
    intro hway hsub
    rw [ih hway fun q hq => List.mem_cons_of_mem _ (hsub hq), List.map_cons,
      closings_of_not_mem new]
  | @object way p keywords rest search middle after new fresh inner tail
    ihinner ihtail =>
    intro hway hsub
    have hvisited : ∀ q ∈ way, q ∈ p :: search.visited :=
      fun q hq => List.mem_cons_of_mem _ (hsub hq)
    have hmem : last ∈ way := List.mem_of_mem_head? hway
    have hp : p ≠ last := by
      rintro rfl
      exact new hmem
    -- below the object the circle cannot end, as its last pointer has been expanded
    have hinner :=
      inner.count_elsewhere hlast (by simpa using hp) (.inl (hvisited last hmem))
    rw [ihtail hway fun q hq => inner.visited_subset (hvisited q hq), hinner,
      List.map_cons, closings_of_not_mem new]

/-- A circle is found again, on a tour that has not come to its last pointer yet,
either not at all or in each way that one step leads from there to its first. -/
theorem Tour.count_found (hd : Schema.ofJson? value = some d)
    (hwell : value.WellFormed) (tour : d.Tour way places search after)
    (hlast : circle.getLast? = some last) (hfirst : circle.head? = some first) :
    way.head? ≠ some last → way ⊆ search.visited →
      (∀ place ∈ places, d.at place.1 = .ok place.2) →
      after.found.count circle = search.found.count circle ∨
        after.found.count circle = search.found.count circle +
          d.leadings last first := by
  induction tour with
  | nil => exact fun _ _ _ => .inl rfl
  | @closed way p s rest search after met tail ih =>
    intro hway hsub hplaces
    have hne : Search.circle way p ≠ circle := by
      rintro rfl
      exact hway ((Search.getLast?_circle met).symm.trans hlast)
    have hcount := ih hway hsub (List.forall_mem_cons.mp hplaces).2
    rwa [List.count_cons_of_ne hne] at hcount
  | seen new seen tail ih =>
    exact fun hway hsub hplaces => ih hway hsub (List.forall_mem_cons.mp hplaces).2
  | bool new fresh tail ih =>
    intro hway hsub hplaces
    exact ih hway (fun q hq => List.mem_cons_of_mem _ (hsub hq))
      (List.forall_mem_cons.mp hplaces).2
  | @object way p keywords rest search middle after new fresh inner tail
    ihinner ihtail =>
    intro hway hsub hplaces
    obtain ⟨here, hrest⟩ := List.forall_mem_cons.mp hplaces
    have hsubinner : p :: way ⊆ p :: search.visited := List.cons_subset_cons p hsub
    have hsubtail : way ⊆ middle.visited := fun q hq =>
      inner.visited_subset (hsubinner (List.mem_cons_of_mem p hq))
    have hsuccessors : ∀ place ∈ d.successors p keywords, d.at place.1 =
        .ok place.2 :=
      fun place hplace => (mem_successors hd hwell here hplace).2
    by_cases hp : p = last
    · -- here the circle is closed, and nowhere afterwards
      subst hp
      have hinner := inner.count_ending hlast rfl hsubinner
      have htail := tail.count_elsewhere hlast hway
          (.inl (inner.visited_subset List.mem_cons_self))
      rw [htail, hinner, leadings, here]
      rcases count_closings hfirst (p :: way)
        ((d.successors p keywords).map Prod.fst) with hnone | hall
      · exact .inl (by rw [hnone, Nat.add_zero])
      · exact .inr (by rw [hall])
    · have hwayinner : (p :: way).head? ≠ some last := by simpa using hp
      by_cases hmiddle : last ∈ middle.visited
      · rw [tail.count_elsewhere hlast hway (.inl hmiddle)]
        exact ihinner hwayinner hsubinner hsuccessors
      · have hinner := inner.count_elsewhere hlast hwayinner (.inr hmiddle)
        have htail := ihtail hway hsubtail hrest
        rwa [hinner] at htail

end

/-! ## Two ways to take one step -/

/-- The `$ref` of the object at a pointer stands for this target, which leads
somewhere. -/
def Refers (d : Document) (pointer target : String) : Prop :=
  ∃ keywords place, d.at pointer = .ok (.object () keywords) ∧
    d.referred? pointer keywords = some (target, place)

/-- The object at a pointer has a subschema with this target for its pointer. -/
def Holds (d : Document) (pointer target : String) : Prop :=
  ∃ keywords, d.at pointer = .ok (.object () keywords) ∧
    ∃ sub ∈ Keywords.subschemas keywords, pointer ++ "/" ++ sub.pointer = target

/-- From the last pointer of a circle both the `$ref` and a subschema lead to the
first. -/
def Doubles (d : Document) (circle : Circle) : Prop :=
  ∃ first ∈ circle.head?, ∃ last ∈ circle.getLast?, d.Refers last first ∧
    d.Holds last first

theorem wellFormed_at (hd : Schema.ofJson? value = some d) (hwell : value.WellFormed)
    {pointer : String} {s : Document} (h : d.at pointer = .ok s) :
    s.toJson.WellFormed := by
  obtain ⟨place, hwalk, hplace⟩ := (Schema.at_eq_ok_iff hd).mp h
  rw [Schema.toJson_of_ofJson? hplace]
  exact hwell.walk hwalk

section

variable {pointer : String} {keywords : Keywords Unit}

theorem leadings_eq (here : d.at pointer = .ok (.object () keywords))
    (target : String) :
    d.leadings pointer target =
      ((d.referred? pointer keywords).map Prod.fst).toList.count target +
      ((Keywords.subschemas keywords).map fun sub =>
        pointer ++ "/" ++ sub.pointer).count target := by
  simp only [leadings, here, successors, List.map_append,
    List.count_append, List.map_map]
  cases d.referred? pointer keywords <;> rfl

theorem refers_iff (here : d.at pointer = .ok (.object () keywords))
    {target : String} :
    d.Refers pointer target ↔ (d.referred? pointer keywords).map Prod.fst =
      some target := by
  constructor
  · rintro ⟨others, place, hat, hreferred⟩
    cases here.symm.trans hat
    rw [hreferred, Option.map_some]
  · intro h
    obtain ⟨⟨_, place⟩, hreferred, rfl⟩ := Option.map_eq_some_iff.mp h
    exact ⟨keywords, place, here, hreferred⟩

theorem holds_iff (here : d.at pointer = .ok (.object () keywords))
    {target : String} :
    d.Holds pointer target ↔
      target ∈ (Keywords.subschemas keywords).map fun sub => pointer ++ "/" ++
        sub.pointer := by
  rw [List.mem_map]
  constructor
  · rintro ⟨others, hat, hsub⟩
    cases here.symm.trans hat
    exact hsub
  · exact fun h => ⟨keywords, here, h⟩

/-- One step leads to a target in two ways if the object both refers to it and holds
it, and in one way at most otherwise. -/
theorem leadings_cases (hd : Schema.ofJson? value = some d) (hwell : value.WellFormed)
    (here : d.at pointer = .ok (.object () keywords)) (target : String) :
    (d.Refers pointer target ∧ d.Holds pointer target) ∧
      d.leadings pointer target = 2 ∨
      ¬ (d.Refers pointer target ∧ d.Holds pointer target) ∧
        d.leadings pointer target ≤ 1 := by
  have hnodup : ((Keywords.subschemas keywords).map fun sub => pointer ++
      "/" ++ sub.pointer).Nodup := by
    have hpointers := (Keywords.nodup_pointers (wellFormed_at hd hwell here)).map
      (f := fun path => pointer ++ "/" ++ path) fun a b hab => by
        have hchars := congrArg String.toList hab
        simp only [String.toList_append, List.append_cancel_left_eq] at hchars
        exact String.toList_injective hchars
    rwa [List.map_map] at hpointers
  have hheld := List.nodup_iff_count_le_one.mp hnodup target
  rw [leadings_eq here, refers_iff here, holds_iff here]
  cases (d.referred? pointer keywords).map Prod.fst with
  | none =>
    rw [Option.toList_none, List.count_nil, Nat.zero_add]
    exact .inr ⟨fun h => absurd h.1 (Option.some_ne_none target).symm, hheld⟩
  | some other =>
    rw [Option.toList_some]
    by_cases hother : other = target
    · subst hother
      rw [List.count_cons_self, List.count_nil]
      by_cases hmem : other ∈ (Keywords.subschemas keywords).map
        fun sub => pointer ++ "/" ++ sub.pointer
      · exact .inl ⟨⟨rfl, hmem⟩, by rw [List.count_eq_one_of_mem hnodup hmem]⟩
      · exact .inr ⟨fun h => hmem h.2, by rw [List.count_eq_zero.mpr hmem]⟩
    · rw [List.count_cons_of_ne hother, List.count_nil, Nat.zero_add]
      exact .inr ⟨fun h => hother (Option.some.inj h.1), hheld⟩

end

/-! ## How often a circle is reported -/

/-- A circle that is reported is reported in each way that one step leads from its
last pointer to its first. -/
theorem count_circles (hd : Schema.ofJson? value = some d)
    (hwell : value.WellFormed) {circle : Circle} (h : circle ∈ d.circles)
    {first last : String} (hfirst : circle.head? = some first)
    (hlast : circle.getLast? = some last) :
    d.circles.count circle = d.leadings last first := by
  obtain ⟨search, tour, hcircles⟩ := exists_tour hd hwell
  have hpos := List.count_pos_iff.mpr h
  rw [hcircles, List.count_reverse] at hpos ⊢
  have hroot : ∀ place ∈ [("#", d)], d.at place.1 = .ok place.2 :=
    List.forall_mem_singleton.mpr (at_root d)
  rcases tour.count_found hd hwell hlast hfirst
    (by simp) (List.nil_subset _) hroot with hnone | hall
  · rw [hnone] at hpos
    exact absurd hpos (Nat.lt_irrefl 0)
  · rw [hall, List.count_nil, Nat.zero_add]

/-- The search reports a circle twice if from its last pointer both a `$ref` and a
subschema lead to the first, and once otherwise. So no circle is reported again just
if there is none of that kind. -/
theorem circles_repeat (hd : Schema.ofJson? value = some d)
    (hwell : value.WellFormed) :
    (∀ circle ∈ d.circles, d.Doubles circle ∧ d.circles.count circle = 2 ∨
      ¬ d.Doubles circle ∧ d.circles.count circle = 1) ∧
    (d.circles.Nodup ↔ ∀ circle ∈ d.circles, ¬ d.Doubles circle) := by
  have hcount : ∀ circle ∈ d.circles, d.Doubles circle ∧ d.circles.count circle = 2 ∨
      ¬ d.Doubles circle ∧ d.circles.count circle = 1 := by
    intro circle hcircle
    have hcircles := (circles_exact hd hwell).1 circle hcircle
    obtain ⟨first, rest, rfl⟩ := List.exists_cons_of_ne_nil hcircles.nonempty
    have hlast := List.getLast?_eq_some_getLast hcircles.nonempty
    generalize (first :: rest).getLast hcircles.nonempty = last at hlast
    obtain ⟨keywords, here⟩ := (hcircles.closed last hlast first rfl).exists_object
    have hdoubles : d.Doubles (first :: rest) ↔ d.Refers last first ∧
        d.Holds last first := by
      simp [Doubles, hlast]
    have hpos := List.count_pos_iff.mpr hcircle
    rw [count_circles hd hwell hcircle rfl hlast] at hpos ⊢
    rw [hdoubles]
    refine (leadings_cases hd hwell here first).imp_right
      (And.imp_right fun hle => ?_)
    omega
  refine ⟨hcount, ?_⟩
  constructor
  · intro hnodup circle hcircle hdoubles
    rcases hcount circle hcircle with ⟨_, htwo⟩ | ⟨hnot, _⟩
    · rw [List.count_eq_one_of_mem hnodup hcircle] at htwo
      omega
    · exact hnot hdoubles
  · intro hnone
    refine List.nodup_iff_count_eq_one.mpr fun circle hcircle => ?_
    rcases hcount circle hcircle with ⟨hdoubles, _⟩ | ⟨_, hone⟩
    · exact absurd hdoubles (hnone circle hcircle)
    · exact hone

end Document

theorem circles_repeat_mutualDefinitions :
    mutualSchema.circles.Nodup ∧ ∀ circle ∈ mutualSchema.circles,
      ¬ mutualSchema.Doubles circle := by
  have hvalue : Schema.ofJson? mutualDefinitions = some mutualSchema := rfl
  have hwell : mutualDefinitions.WellFormed := by decide +kernel
  have hnodup : mutualSchema.circles.Nodup := by decide +kernel
  exact ⟨hnodup, (Document.circles_repeat hvalue hwell).2.mp hnodup⟩

/-- A definition that refers to the schema under its `not`, which refers back and is
met first. -/
def doubledDefinition : Json :=
  .obj [("$defs", .obj [("x", .obj [("$ref", .str "#/$defs/x/not"),
    ("not", .obj [("$ref", .str "#/$defs/x")])])]), ("$ref", .str "#/$defs/x/not")]

/-- The same as a schema. -/
def doubledSchema : Document := (Schema.ofJson? doubledDefinition).getD (.bool true)

/-- A circle that is reported twice. -/
theorem circles_repeat_doubledDefinition :
    Schema.ofJson? doubledDefinition = some doubledSchema ∧
      doubledDefinition.WellFormed ∧
    doubledSchema.circles =
      [["#/$defs/x/not", "#/$defs/x"], ["#/$defs/x/not", "#/$defs/x"]] ∧
    ¬ doubledSchema.circles.Nodup := by
  refine ⟨rfl, by decide +kernel, by decide +kernel, by decide +kernel⟩

end SchemaDeref
