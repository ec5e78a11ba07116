import SchemaDeref.Proofs.Places
import SchemaDeref.Proofs.Refilling
import SchemaDeref.Proofs.Survivors

/-!
# What stays in its place

Dereferencing replaces objects, but what stands in a document stands at the same
place in the result: the members of an object are laid over the target of its
reference, never under it. A pointer that leads somewhere in the document leads to a
place of the same kind in the result, and an anchor that is in the document is in
the result, with two exceptions. An object whose target is `false` becomes `false`
with all that was in it, and of an object that is merged the reference keywords are
dropped.
-/

namespace SchemaDeref

variable {ι : Type}

/-! ## Going along tokens -/

namespace Keyword

/-- Tokens lead from one place to another. -/
inductive GoesTo : Keyword ι → List String → Keyword ι → Prop
  | here (place : Keyword ι) : GoesTo place [] place
  | step {place next last : Keyword ι} {token : String} {rest : List String}
    (first : place.step token = .ok next) (goes : GoesTo next rest last) :
    GoesTo place (token :: rest) last

theorem walk_eq_ok_iff {pointer : String} {tokens : List String}
    {place last : Keyword ι} :
    walk pointer tokens place = .ok last ↔ place.GoesTo tokens last := by
  induction tokens generalizing place with
  | nil =>
    constructor
    · rintro ⟨⟩
      exact .here _
    · rintro ⟨⟩
      rfl
  | cons token rest ih =>
    rw [walk]
    constructor
    · intro h
      split at h
      · rename_i next hstep
        exact .step hstep (ih.mp h)
      · cases h
      · cases h
    · rintro (_ | ⟨hstep, goes⟩)
      rw [hstep]
      exact ih.mpr goes

/-- Places of one kind; data is the same data. -/
def Alike : Keyword ι → Keyword ι → Prop
  | .schema _, .schema _ | .list _, .list _ | .map _, .map _ => True
  | .value a, .value b => a = b
  | _, _ => False

theorem Alike.refl (place : Keyword ι) : place.Alike place := by
  cases place <;> trivial

theorem Alike.eq_value {data : Json} {other : Keyword ι}
    (h : (Keyword.value data).Alike other) :
    other = .value data := by
  cases other with
  | value b => exact congrArg Keyword.value (Eq.symm h)
  | schema | list | map => exact h.elim

/-! ## What is lost -/

/-- The tokens lead through an object for which there is `false` on the other side,
or leave an object by a reference keyword. -/
def Cuts (place other : Keyword ι) (tokens : List String) : Prop :=
  ∃ front token back mark keywords, tokens = front ++ token :: back ∧
    place.GoesTo front (.schema (.object mark keywords)) ∧
    (ReferenceKind.isKeyword token = true ∨
      other.GoesTo front (.schema (.bool false)))

/-- Some schema has an anchor of a name. -/
def Names (place : Keyword ι) (name : String) : Prop :=
  ∃ s ∈ place.preorder, s.isAnchored name = true

/-- An object with an anchor of a name, in it or below it, is `false` on the other
side. -/
def Buries (place other : Keyword ι) (name : String) : Prop :=
  ∃ tokens mark keywords, place.GoesTo tokens (.schema (.object mark keywords)) ∧
    (Keyword.schema (.object mark keywords)).Names name ∧
      other.GoesTo tokens (.schema (.bool false))

variable {place other next next' : Keyword ι} {token : String}

theorem Cuts.step {rest : List String} (h : next.Cuts next' rest)
    (hplace : place.step token = .ok next) (hother : other.step token = .ok next') :
    place.Cuts other (token :: rest) := by
  obtain ⟨front, key, back, mark, keywords, rfl, hgoes, hlost⟩ := h
  exact ⟨token :: front, key, back, mark, keywords, rfl, .step hplace hgoes,
    hlost.imp_right (.step hother)⟩

theorem Buries.step {name : String} (h : next.Buries next' name)
    (hplace : place.step token = .ok next) (hother : other.step token = .ok next') :
    place.Buries other name := by
  obtain ⟨tokens, mark, keywords, hgoes, hnames, hfalse⟩ := h
  exact ⟨token :: tokens, mark, keywords, .step hplace hgoes, hnames,
    .step hother hfalse⟩

/-! ## What is kept -/

/-- Whatever tokens lead to in one place they lead to in the other, and whatever is
named there is named here, unless it is lost. -/
structure Keeps (place other : Keyword ι) : Prop where
  goes : ∀ tokens last, place.GoesTo tokens last →
    (∃ last', other.GoesTo tokens last' ∧ last.Alike last') ∨ place.Cuts other tokens
  names : ∀ name, place.Names name → other.Names name ∨ place.Buries other name

namespace Keeps

theorem refl (place : Keyword ι) : place.Keeps place where
  goes _ last h := .inl ⟨last, h, .refl last⟩
  names _ h := .inl h

/-- A place is kept if it is of the same kind and each step from it leads to what is
kept or leaves an object by a reference keyword. -/
theorem of_steps (halike : place.Alike other)
    (hsteps : ∀ token next, place.step token = .ok next →
      (∃ next', other.step token = .ok next' ∧ next.Keeps next') ∨
        ReferenceKind.isKeyword token = true ∧
          ∃ mark keywords, place = .schema (.object mark keywords))
    (hnames : ∀ name, place.Names name → other.Names name ∨ ∃ token next next',
      place.step token = .ok next ∧ other.step token = .ok next' ∧ next.Keeps next' ∧
        next.Names name ∧ (next'.Names name → other.Names name)) :
    place.Keeps other where
  goes tokens last hgoes := by
    cases hgoes with
    | here => exact .inl ⟨other, .here other, halike⟩
    | @step _ next _ token rest hstep hrest =>
      rcases hsteps token next hstep with ⟨next', hother, hkeeps⟩ | ⟨hkey,
        mark, keywords, rfl⟩
      · rcases hkeeps.goes rest last hrest with ⟨last', hgoes, hlast⟩ | hcuts
        · exact .inl ⟨last', .step hother hgoes, hlast⟩
        · exact .inr (hcuts.step hstep hother)
      · exact .inr ⟨[], token, rest, mark, keywords, rfl, .here _, .inl hkey⟩
  names name hname := by
    rcases hnames name hname with h | ⟨token, next, next', hstep, hother,
      hkeeps, hnext, hup⟩
    · exact .inl h
    · exact (hkeeps.names name hnext).imp hup fun hburies => hburies.step hstep hother

/-- Data is kept as it is. -/
theorem eq_value {data : Json} (h : (Keyword.value data : Keyword ι).Keeps other) :
    other = .value data := by
  rcases h.goes [] _ (.here _) with ⟨last, ⟨⟩, halike⟩ | ⟨front, token,
    back, _, _, heq, _⟩
  · exact halike.eq_value
  · simp at heq

end Keeps

end Keyword

/-! ## Objects, lists and maps -/

theorem Keywords.get?_eq_of_string? {keywords : Keywords ι} {name text : String}
    (h : string? keywords name = some text) :
    Members.get? name keywords = some (.value (.str text)) := by
  simp only [string?] at h
  split at h
  · rename_i hget
    cases h
    exact hget
  · cases h

theorem itemPreorder_eq_flatMap (items : List (Keyword ι)) :
    itemPreorder items = items.flatMap Keyword.preorder := by
  induction items with
  | nil => rfl
  | cons item rest ih => rw [itemPreorder, List.flatMap_cons, ih]

theorem entryPreorder_eq_flatMap (entries : List (String × Keyword ι)) :
    entryPreorder entries = entries.flatMap fun entry => entry.2.preorder := by
  induction entries with
  | nil => rfl
  | cons entry rest ih => rw [entryPreorder, List.flatMap_cons, ih]

theorem preorderIn_eq_flatMap (keywords : Keywords ι) :
    preorderIn keywords = keywords.flatMap fun entry =>
      if Shape.ofKeyword entry.1 = .value then [] else entry.2.preorder := by
  induction keywords with
  | nil => rfl
  | cons entry rest ih => rw [preorderIn, List.flatMap_cons, ih]

/-- Related lists have related items at the same positions. -/
theorem exists_getElem?_of_forall₂ {α β : Type} {R : α → β → Prop} {xs : List α}
    {ys : List β} (h : List.Forall₂ R xs ys) {i : Nat} {x : α}
    (hx : xs[i]? = some x) :
    ∃ y, ys[i]? = some y ∧ R x y := by
  induction h generalizing i with
  | nil => simp at hx
  | cons hfirst _ ih =>
    cases i with
    | zero =>
      cases hx
      exact ⟨_, rfl, hfirst⟩
    | succ i => exact ih hx

namespace Keyword.Keeps

theorem list {olds news : List (Keyword ι)} (hlength : olds.length < Nat.pow 2 64)
    (h : List.Forall₂ Keeps olds news) : (Keyword.list olds).Keeps (.list news) := by
  have hstep : ∀ {items : List (Keyword ι)} {token : String} {item : Keyword ι},
      (Keyword.list items).step token = .ok item ↔ item? items token = some item := by
    intro items token item
    rw [step]
    cases item? items token <;> simp [orMissing]
  refine of_steps trivial ?_ ?_
  · intro token next hnext
    obtain ⟨i, hi, hitem⟩ := Option.bind_eq_some_iff.mp (hstep.mp hnext)
    obtain ⟨next', hnext', hkeeps⟩ := exists_getElem?_of_forall₂ h hitem
    exact .inl ⟨next', hstep.mpr (Option.bind_eq_some_iff.mpr ⟨i, hi, hnext'⟩),
      hkeeps⟩
  · rintro name ⟨s, hs, hanchor⟩
    rw [preorder, itemPreorder_eq_flatMap] at hs
    obtain ⟨item, hmem, hs⟩ := List.mem_flatMap.mp hs
    obtain ⟨i, hi, hitem⟩ := List.mem_iff_getElem?.mp hmem |>.imp fun i hi =>
      And.intro (List.getElem?_eq_some_iff.mp hi).1 hi
    obtain ⟨next', hnext', hkeeps⟩ := exists_getElem?_of_forall₂ h hitem
    have hindex := Pointer.index?_toString (Nat.lt_trans hi hlength)
    refine .inr ⟨toString i, item, next', ?_, ?_, hkeeps, ⟨s, hs, hanchor⟩, ?_⟩
    · exact hstep.mpr (Option.bind_eq_some_iff.mpr ⟨i, hindex, hitem⟩)
    · exact hstep.mpr (Option.bind_eq_some_iff.mpr ⟨i, hindex, hnext'⟩)
    · rintro ⟨t, ht, hnamed⟩
      refine ⟨t, ?_, hnamed⟩
      rw [preorder, itemPreorder_eq_flatMap]
      exact List.mem_flatMap.mpr ⟨next', List.mem_of_getElem? hnext', ht⟩

theorem map {olds news : List (String × Keyword ι)}
    (hnames : (Members.names olds).Nodup) (h : AreRelatedEntries Keeps olds news) :
    (Keyword.map olds).Keeps (.map news) := by
  have hstep : ∀ {entries : List (String × Keyword ι)} {token : String}
      {entry : Keyword ι},
      (Keyword.map entries).step token = .ok entry ↔ Members.get? token entries =
        some entry := by
    intro entries token entry
    rw [step]
    cases Members.get? token entries <;> simp [orMissing]
  refine of_steps trivial ?_ ?_
  · intro token next hnext
    obtain ⟨next', hnext', hkeeps⟩ := h.exists_get? (hstep.mp hnext)
    exact .inl ⟨next', hstep.mpr hnext', hkeeps⟩
  · rintro name ⟨s, hs, hanchor⟩
    rw [preorder, entryPreorder_eq_flatMap] at hs
    obtain ⟨⟨key, entry⟩, hmem, hs⟩ := List.mem_flatMap.mp hs
    have hget := Members.get?_of_mem hnames hmem
    obtain ⟨next', hnext', hkeeps⟩ := h.exists_get? hget
    refine .inr ⟨key, entry, next', hstep.mpr hget, hstep.mpr hnext', hkeeps,
      ⟨s, hs, hanchor⟩, ?_⟩
    rintro ⟨t, ht, hnamed⟩
    refine ⟨t, ?_, hnamed⟩
    rw [preorder, entryPreorder_eq_flatMap]
    exact List.mem_flatMap.mpr ⟨_, Members.mem_of_get? hnext', ht⟩

theorem step_object_iff {mark : ι} {keywords : Keywords ι} {token : String}
    {next : Keyword ι} :
    (Keyword.schema (.object mark keywords)).step token = .ok next ↔
      Members.get? token keywords = some next := by
  rw [step]
  cases Members.get? token keywords <;> simp [orMissing]

/-- An object is kept where every member but its reference keywords is. -/
theorem object {mark other : ι} {olds news : Keywords ι}
    (hnames : (Members.names olds).Nodup)
    (h : ∀ name old, ReferenceKind.isKeyword name = false →
      Members.get? name olds = some old →
      ∃ new, Members.get? name news = some new ∧ old.Keeps new) :
    (Keyword.schema (.object mark olds)).Keeps (.schema (.object other news)) := by
  refine of_steps trivial ?_ ?_
  · intro token next hnext
    cases hkey : ReferenceKind.isKeyword token with
    | true => exact .inr ⟨rfl, mark, olds, rfl⟩
    | false =>
      obtain ⟨next', hnext', hkeeps⟩ := h token next hkey (step_object_iff.mp hnext)
      exact .inl ⟨next', step_object_iff.mpr hnext', hkeeps⟩
  · rintro name ⟨s, hs, hanchor⟩
    rw [preorder, Schema.preorder, List.mem_cons] at hs
    rcases hs with rfl | hs
    · -- the object itself: an anchor is data, and data is kept as it is
      refine .inl ⟨.object other news, ?_, ?_⟩
      · rw [preorder, Schema.preorder]
        exact List.mem_cons_self
      · have hstring : ∀ key text, ReferenceKind.isKeyword key = false →
            Keywords.string? olds key = some text →
              Keywords.string? news key = some text := by
          intro key text hkey htext
          obtain ⟨new, hnew, hkeeps⟩ :=
            h key _ hkey (Keywords.get?_eq_of_string? htext)
          rw [Keywords.string?, hnew, hkeeps.eq_value]
        simp only [Schema.isAnchored, Keywords.hasAnchor,
          Bool.or_eq_true, beq_iff_eq] at hanchor ⊢
        exact hanchor.imp (hstring _ _ (by decide)) (hstring _ _ (by decide))
    · rw [preorderIn_eq_flatMap] at hs
      obtain ⟨⟨key, old⟩, hmem, hs⟩ := List.mem_flatMap.mp hs
      split at hs
      · cases hs
      · rename_i hshape
        have hkey : ReferenceKind.isKeyword key = false := by
          cases hkey : ReferenceKind.isKeyword key with
          | false => rfl
          | true => exact absurd (ReferenceKind.ofKeyword_of_isKeyword hkey) hshape
        have hget := Members.get?_of_mem hnames hmem
        obtain ⟨new, hnew, hkeeps⟩ := h key old hkey hget
        refine .inr ⟨key, old, new, step_object_iff.mpr hget,
          step_object_iff.mpr hnew, hkeeps, ⟨s, hs, hanchor⟩, ?_⟩
        rintro ⟨t, ht, hnamed⟩
        refine ⟨t, ?_, hnamed⟩
        rw [preorder, Schema.preorder, preorderIn_eq_flatMap]
        refine List.mem_cons_of_mem _
          (List.mem_flatMap.mpr ⟨_, Members.mem_of_get? hnew, ?_⟩)
        rwa [if_neg hshape]

/-- Nothing in an object is kept where the result is `false`, and all of it is lost. -/
theorem buried (mark : ι) (keywords : Keywords ι) :
    (Keyword.schema (.object mark keywords)).Keeps (.schema (.bool false)) where
  goes tokens last hgoes := by
    cases hgoes with
    | here => exact .inl ⟨_, .here _, trivial⟩
    | @step _ _ _ token rest _ _ =>
      exact .inr ⟨[], token, rest, mark, keywords, rfl, .here _, .inr (.here _)⟩
  names name hname := .inr ⟨[], mark, keywords, .here _, hname, .here _⟩

/-- An object that is nothing but references may become anything. -/
theorem bare {mark : ι} {keywords : Keywords ι}
    (h : Keywords.siblings keywords = []) (s : Schema ι) :
    (Keyword.schema (.object mark keywords)).Keeps (.schema s) := by
  have hkey : ∀ entry ∈ keywords, ReferenceKind.isKeyword entry.1 = true := by
    intro entry hentry
    by_contra hno
    have hmem : entry ∈ Keywords.siblings keywords :=
      List.mem_filter.mpr ⟨hentry, by simpa using hno⟩
    rw [h] at hmem
    cases hmem
  refine of_steps trivial ?_ ?_
  · intro token next hnext
    exact .inr ⟨hkey _ (Members.mem_of_get? (step_object_iff.mp hnext)),
      mark, keywords, rfl⟩
  · rintro name ⟨t, ht, hanchor⟩
    rw [preorder, Schema.preorder, List.mem_cons, preorderIn_eq_flatMap] at ht
    rcases ht with rfl | ht
    · -- an anchor would be a keyword of its own
      simp only [Schema.isAnchored, Keywords.hasAnchor, Bool.or_eq_true, beq_iff_eq]
        at hanchor
      rcases hanchor with hanchor | hanchor
      all_goals
        have := hkey _ (Members.mem_of_get? (Keywords.get?_eq_of_string? hanchor))
        cases this
    · obtain ⟨entry, hentry, ht⟩ := List.mem_flatMap.mp ht
      rw [if_pos (ReferenceKind.ofKeyword_of_isKeyword (hkey entry hentry))] at ht
      cases ht

end Keyword.Keeps

/-! ## Well-formed schemas -/

theorem Members.names_toJson (keywords : List (String × Keyword ι)) :
    Members.names (entriesToJson keywords) = Members.names keywords := by
  induction keywords with
  | nil => rfl
  | cons entry rest ih =>
    rw [entriesToJson]
    exact congrArg (entry.1 :: ·) ih

theorem length_itemsToJson (items : List (Keyword ι)) :
    (itemsToJson items).length = items.length := by
  induction items with
  | nil => rfl
  | cons item rest ih => rw [itemsToJson, List.length_cons, ih, List.length_cons]

theorem Json.WellFormed.of_items {items : List (Keyword ι)}
    (h : WellFormedItems (itemsToJson items)) :
    ∀ item ∈ items, item.toJson.WellFormed := by
  induction items with
  | nil => exact fun _ hitem => absurd hitem List.not_mem_nil
  | cons first rest ih =>
    rw [itemsToJson, WellFormedItems] at h
    exact List.forall_mem_cons.mpr ⟨h.1, ih h.2⟩

theorem Json.WellFormed.of_entries {entries : List (String × Keyword ι)}
    (h : WellFormedMembers (entriesToJson entries)) :
    ∀ entry ∈ entries, entry.2.toJson.WellFormed := by
  induction entries with
  | nil => exact fun _ hentry => absurd hentry List.not_mem_nil
  | cons first rest ih =>
    rw [entriesToJson, WellFormedMembers] at h
    exact List.forall_mem_cons.mpr ⟨h.1, ih h.2⟩

theorem Schema.wellFormed_object {mark : ι} {keywords : Keywords ι}
    (h : (Schema.object mark keywords).toJson.WellFormed) :
    (Members.names keywords).Nodup ∧
      ∀ entry ∈ keywords, entry.2.toJson.WellFormed := by
  rw [Schema.toJson, Json.WellFormed, Members.names_toJson] at h
  exact ⟨h.1, Json.WellFormed.of_entries h.2⟩

/-- What a well-formed schema comes to keeps what is in it. -/
def Schema.Remains (s t : Schema ι) : Prop :=
  s.toJson.WellFormed → (Keyword.schema s).Keeps (.schema t)

theorem Schema.Remains.refl (s : Schema ι) : s.Remains s := fun _ => .refl _

theorem handsUp_keeps : HandsUp (Schema.Remains (ι := ι))
    (fun old new => old.toJson.WellFormed → old.Keeps new) where
  schema h := h
  list h hwell := by
    rw [Keyword.toJson, Json.WellFormed, length_itemsToJson] at hwell
    refine .list hwell.1 ?_
    exact (List.forall₂_and_left _ _ |>.mpr ⟨Json.WellFormed.of_items hwell.2, h⟩).imp
      fun _ _ ⟨hitem, hkeeps⟩ => hkeeps hitem
  map h hwell := by
    rw [Keyword.toJson, Json.WellFormed, Members.names_toJson] at hwell
    refine .map hwell.1 ?_
    exact (List.forall₂_and_left _ _ |>.mpr
      ⟨Json.WellFormed.of_entries hwell.2, h⟩).imp
      fun _ _ ⟨hentry, hname, hkeeps⟩ => ⟨hname, hkeeps hentry⟩
  value data _ := .refl _

/-! ## Merging -/

/-- An object of which the reference is replaced, or kept, remains. -/
theorem Document.remains_concluded {keywords : Keywords Unit}
    {results : List Document}
    (h : List.Forall₂ Schema.Remains (Keywords.applied keywords) results)
    (outcome : Option Document) :
    (Schema.object () keywords).Remains
      (Document.concluded (Keywords.refill keywords results) outcome) := by
  intro hwell
  obtain ⟨hnames, hmembers⟩ := Schema.wellFormed_object hwell
  have hrelated :=
    Keywords.related_refill handsUp_keeps Schema.Remains.refl keywords results h
  have hrefilled : ∀ name old, Members.get? name keywords = some old →
      ∃ new, Members.get? name (Keywords.refill keywords results) = some new ∧
        old.Keeps new := by
    intro name old hold
    obtain ⟨new, hnew, hkeeps⟩ := hrelated.exists_get? hold
    exact ⟨new, hnew, hkeeps (hmembers _ (Members.mem_of_get? hold))⟩
  cases outcome with
  | none => exact .object hnames fun name old _ hold => hrefilled name old hold
  | some target =>
    have hsiblings : ∀ name old, ReferenceKind.isKeyword name = false →
        Members.get? name keywords = some old →
        ∃ new, Members.get? name
          (Keywords.siblings (Keywords.refill keywords results)) = some new ∧
          old.Keeps new := by
      intro name old hname hold
      rw [Keywords.get?_siblings hname]
      exact hrefilled name old hold
    simp only [Document.concluded, Schema.overlaid]
    split
    · rename_i hempty
      refine .bare (List.eq_nil_iff_forall_not_mem.mpr fun entry hentry => ?_) target
      have hget := Members.get?_of_mem hnames (List.mem_filter.mp hentry).1
      obtain ⟨new, hnew, _⟩ :=
        hsiblings _ _ (Keywords.isKeyword_of_mem_siblings hentry) hget
      rw [List.isEmpty_iff.mp hempty] at hnew
      cases hnew
    · split
      · exact .buried () keywords
      · exact .object hnames hsiblings
      · refine .object hnames fun name old hname hold => ?_
        obtain ⟨new, hnew, hkeeps⟩ := hsiblings name old hname hold
        refine ⟨new, Members.get?_overwrite_of_mem (Keywords.nodup_siblings ?_)
          hnew, hkeeps⟩
        rwa [← hrelated.names_eq]

/-! ## Fragments -/

/-- Where one of two alike places can be read as a schema, the other can. -/
theorem Keyword.Alike.exists_land {place other : Keyword ι} (h : place.Alike other)
    {pointer : String} {landing : Landing ι}
    (hland : place.land pointer = .ok landing) :
    ∃ landing', other.land pointer = .ok landing' := by
  cases place with
  | schema s =>
    cases other with
    | schema t => exact ⟨.found t, rfl⟩
    | list | map | value => exact h.elim
  | list items => cases hland
  | map entries =>
    cases other with
    | map others =>
      exact ⟨.reread (.object () (readKeywords (entriesToJson others))), rfl⟩
    | schema | list | value => exact h.elim
  | value data =>
    rw [h.eq_value]
    exact ⟨landing, hland⟩

/-- A pointer names a schema where its tokens lead to a place that can be read as
one. -/
theorem Schema.exists_at_iff {s : Document} {pointer : String} :
    (∃ t, s.at pointer = .ok t) ↔
      ∃ place, (Keyword.schema s).GoesTo (Pointer.tokens pointer) place ∧
      ∃ landing, place.land pointer = .ok landing := by
  rw [Schema.at, Schema.follow]
  split
  · rename_i htokens
    rw [htokens]
    exact ⟨fun _ => ⟨_, .here _, _, rfl⟩, fun _ => ⟨s, rfl⟩⟩
  · have hgoes : ∀ place, (Keyword.schema s).GoesTo (Pointer.tokens pointer) place ↔
        Keyword.walk pointer (Pointer.tokens pointer) (.schema s) = .ok place :=
      fun _ => Keyword.walk_eq_ok_iff.symm
    simp only [hgoes]
    cases Keyword.walk pointer (Pointer.tokens pointer) (.schema s) with
    | error error => simp [bind, Except.bind, Except.map]
    | ok place =>
      cases hland : place.land pointer with
      | error error => simp [bind, Except.bind, Except.map, hland]
      | ok landing => simp [bind, Except.bind, Except.map, hland]

/-- The place that a fragment names in a document is lost in another: an anchor
where the objects that have it are buried, a pointer where its way is cut. -/
def Document.Loses (d other : Document) (fragment : String) : Prop :=
  if fragment.toList.head? ≠ some '/' ∧
    (d.preorder.find? (Schema.isAnchored fragment)).isSome then
    (Keyword.schema d).Buries (.schema other) fragment
  else (Keyword.schema d).Cuts (.schema other) (Pointer.tokens fragment)

theorem Document.exists_at_of_keeps {d other : Document}
    (h : (Keyword.schema d).Keeps (.schema other)) {pointer : String}
    (hat : ∃ s, d.at pointer = .ok s) :
    (∃ s, other.at pointer = .ok s) ∨
      (Keyword.schema d).Cuts (.schema other) (Pointer.tokens pointer) := by
  obtain ⟨place, hgoes, landing, hland⟩ := Schema.exists_at_iff.mp hat
  rcases h.goes _ _ hgoes with ⟨place', hgoes', halike⟩ | hcuts
  · exact .inl (Schema.exists_at_iff.mpr ⟨place', hgoes', halike.exists_land hland⟩)
  · exact .inr hcuts

theorem Document.locate_name (d : Document) {text : String} {c : Char}
    {rest : List Char} (hchars : text.toList = c :: rest) (hslash : c ≠ '/') :
    d.locate (some text) =
      match d.preorder.find? (Schema.isAnchored text) with
      | some s => .ok s
      | none => d.at text := by
  simp only [Document.locate, hchars]
  split
  · cases ‹_ :: _ = []›
  · rename_i heq
    exact absurd (List.cons.inj heq).1 hslash
  · rfl

/-- A fragment that names a place in a document names one in what is kept of it,
unless the place is lost. -/
theorem Document.exists_locate_of_keeps {d other : Document}
    (h : (Keyword.schema d).Keeps (.schema other)) {fragment : Option String}
    (hlocate : ∃ s, d.locate fragment = .ok s) :
    (∃ s, other.locate fragment = .ok s) ∨ ∃ text, fragment = some text ∧
      d.Loses other text := by
  cases fragment with
  | none => exact .inl ⟨other, rfl⟩
  | some text =>
    have hat := fun hd : ∃ s, d.at text = .ok s => Document.exists_at_of_keeps h hd
    simp only [Option.some.injEq, exists_eq_left', Document.Loses]
    cases hchars : text.toList with
    | nil => exact .inl ⟨other, by rw [Document.locate, hchars]⟩
    | cons c rest =>
      by_cases hslash : c = '/'
      · subst hslash
        simp only [Document.locate, hchars] at hlocate ⊢
        simpa using hat hlocate
      · rw [d.locate_name hchars hslash] at hlocate
        rw [other.locate_name hchars hslash]
        simp only [List.head?_cons, ne_eq, Option.some.injEq, hslash,
          not_false_eq_true, true_and]
        -- an anchor that is there in the other document is found there
        have hfound : ∀ t ∈ other.preorder, t.isAnchored text = true →
            ∃ s, other.preorder.find? (Schema.isAnchored text) = some s :=
          fun t ht hnamed =>
            Option.isSome_iff_exists.mp (List.find?_isSome.mpr ⟨t, ht, hnamed⟩)
        cases hnamed : d.preorder.find? (Schema.isAnchored text) with
        | some s =>
          rw [if_pos (by rfl)]
          rcases h.names text ⟨s, List.mem_of_find?_eq_some hnamed,
            List.find?_some hnamed⟩ with
            ⟨t, ht, hnamed⟩ | hburies
          · obtain ⟨t', ht'⟩ := hfound t ht hnamed
            rw [ht']
            exact .inl ⟨t', rfl⟩
          · exact .inr hburies
        | none =>
          rw [if_neg (by simp)]
          rw [hnamed] at hlocate
          cases other.preorder.find? (Schema.isAnchored text) with
          | some t => exact .inl ⟨t, rfl⟩
          | none => exact hat hlocate

/-! ## Walks -/

/-- Every remembered result of a node is one in which the node remains. -/
def State.Remains (state : State) : Prop :=
  ∀ note ∈ state.notes, ∀ node, note.mark = .node node →
    node.erase.Remains note.result.erase

/-- That the nodes of a task remain in its answer. -/
def Task.Remains : Task → Answer → Prop
  | .node n, .node result => n.erase.Remains result.erase
  | .nodes ns, .nodes results =>
    List.Forall₂ Schema.Remains (ns.map Schema.erase) (results.map Schema.erase)
  | .link _, .outcome _ => True
  | .reference _, .outcome _ => True
  | _, _ => False

theorem Walk.remains {setup : Setup} {Fair : Fairness} {hops : Nat} {scope : Scope}
    {task : Task} {state after : State} {result : Except DerefError Answer}
    {reach : Reach}
    (walk : Walk setup Fair hops scope task state result after reach) :
    state.Remains → after.Remains ∧ ∀ answer, result = .ok answer →
      task.Remains answer := by
  -- whatever a reference comes to, the object it stands in remains; so only nodes
  -- are looked at
  induction walk with
  | bool =>
    refine fun hstate => ⟨hstate, ?_⟩
    rintro answer ⟨⟩
    exact Schema.Remains.refl _
  | recalled _ noted mark _ =>
    refine fun hstate => ⟨hstate, ?_⟩
    rintro answer ⟨⟩
    exact hstate _ noted _ mark
  | unlinked _ _ ih => exact fun hstate => ⟨(ih hstate).1, fun _ h => by cases h⟩
  | unfinished _ _ _ ihlink ihmembers =>
    exact fun hstate => ⟨(ihmembers (ihlink hstate).1).1, fun _ h => by cases h⟩
  | @concluded _ _ id keywords _ outcome middle results after result _ _ _ _ _
    members _ erase ihlink
      ihmembers =>
    intro hstate
    obtain ⟨hafter, hresults⟩ := ihmembers (ihlink hstate).1
    have hremains : (Schema.object id keywords).erase.Remains result.erase := by
      rw [erase, Schema.erase_object]
      refine Document.remains_concluded ?_ outcome.erase
      rw [Keywords.applied_erase]
      exact hresults _ rfl
    refine ⟨List.forall_mem_cons.mpr ⟨?_, hafter⟩, ?_⟩
    · rintro node ⟨⟩
      exact hremains
    · rintro answer ⟨⟩
      exact hremains
  | nil =>
    refine fun hstate => ⟨hstate, ?_⟩
    rintro answer ⟨⟩
    exact List.Forall₂.nil
  | headFailed _ ih => exact fun hstate => ⟨(ih hstate).1, fun _ h => by cases h⟩
  | tailFailed _ _ ihhead ihtail =>
    exact fun hstate => ⟨(ihtail (ihhead hstate).1).1, fun _ h => by cases h⟩
  | cons _ _ ihhead ihtail =>
    intro hstate
    obtain ⟨hmiddle, hresult⟩ := ihhead hstate
    obtain ⟨hafter, hresults⟩ := ihtail hmiddle
    refine ⟨hafter, ?_⟩
    rintro answer ⟨⟩
    exact List.Forall₂.cons (hresult _ rfl) (hresults _ rfl)
  | unreferring =>
    refine fun hstate => ⟨hstate, ?_⟩
    rintro answer ⟨⟩
    trivial
  | referring _ _ ih =>
    intro hstate
    obtain ⟨hafter, hanswer⟩ := ih hstate
    refine ⟨hafter, fun answer heq => ?_⟩
    have := hanswer answer heq
    cases answer with
    | outcome _ => trivial
    | node _ | nodes _ => exact this.elim
  | reused | circled =>
    refine fun hstate => ⟨hstate, ?_⟩
    rintro answer ⟨⟩
    trivial
  | circular | tooDeep | lost => exact fun hstate => ⟨hstate, fun _ h => by cases h⟩
  | unexpanded _ _ _ _ ih =>
    exact fun hstate => ⟨(ih hstate).1, fun _ h => by cases h⟩
  | expanded _ _ _ _ ih =>
    intro hstate
    refine ⟨?_, ?_⟩
    · simp only [State.Remains, State.noteReference]
      split
      · refine List.forall_mem_cons.mpr ⟨?_, (ih hstate).1⟩
        rintro node ⟨⟩
      · exact (ih hstate).1
    · rintro answer ⟨⟩
      trivial

/-- A schema that is well-formed remains in what a call comes to. -/
theorem CallWalk.remains {setup : Setup} {Fair : Fairness} {session : Session}
    {schema result : Node} {after : State} {reach : Reach}
    (walk : CallWalk setup Fair session schema (.ok result) after reach) :
    schema.erase.Remains result.erase :=
  (Walk.remains walk fun _ hnote => absurd hnote List.not_mem_nil).2 _ rfl

end SchemaDeref
