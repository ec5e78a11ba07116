import SchemaDeref.Proofs.Objects
import SchemaDeref.Proofs.Pointers

/-!
# Places in a value

A pointer into a document is followed in the value the document was read from.
Whether the steps go through schemas, lists, maps or data makes no difference, and
where they end at a boolean or an object that is the schema the pointer names
(`Schema.at_eq_ok_iff`). In a well-formed value the pointers that subschemas come
with lead to them (`Schema.at_subschema`).
-/

namespace SchemaDeref

/-! ## Steps -/

namespace Json

/-- The member or item of a value that a token names. -/
def step? (token : String) : Json → Option Json
  | .obj members => Members.get? token members
  | .arr items => Keyword.item? items token
  | _ => none

/-- Whether a value has members or items. -/
def isInner : Json → Bool
  | .obj _ | .arr _ => true
  | _ => false

/-- The value that tokens lead to, one after the other. -/
def walk? : List String → Json → Option Json
  | [], value => some value
  | token :: rest, value => value.step? token >>= walk? rest

theorem walk?_cons {token : String} {value next : Json}
    (h : value.step? token = some next) (rest : List String) :
    value.walk? (token :: rest) = next.walk? rest := by
  rw [walk?, h]
  rfl

theorem walk?_append (front back : List String) (value : Json) :
    value.walk? (front ++ back) = value.walk? front >>= walk? back := by
  induction front generalizing value with
  | nil => rfl
  | cons token front ih =>
    rw [List.cons_append, walk?, walk?]
    cases value.step? token with
    | none => rfl
    | some next => exact ih next

end Json

/-! ## Following a pointer in a value -/

theorem getElem?_readItems (items : List Json) (i : Nat) :
    (readItems items)[i]? = items[i]?.map (Keyword.read .nested) := by
  induction items generalizing i with
  | nil => rfl
  | cons item rest ih =>
    cases i with
    | zero => rfl
    | succ i => simpa [readItems] using ih i

theorem item?_readItems (items : List Json) (token : String) :
    Keyword.item? (readItems items) token =
      (Keyword.item? items token).map (Keyword.read .nested) := by
  simp only [Keyword.item?]
  cases Pointer.index? token with
  | none => rfl
  | some i => exact getElem?_readItems items i

theorem get?_readEntries (members : List (String × Json)) (token : String) :
    Members.get? token (readEntries members) =
      (Members.get? token members).map (Keyword.read .nested) := by
  induction members with
  | nil => rfl
  | cons member rest ih =>
    obtain ⟨name, value⟩ := member
    simp only [readEntries, Members.get?]
    split
    · rfl
    · exact ih

theorem get?_readKeywords (members : List (String × Json)) (token : String) :
    Members.get? token (readKeywords members) =
      (Members.get? token members).map (Keyword.ofJson token) := by
  induction members with
  | nil => rfl
  | cons member rest ih =>
    obtain ⟨name, value⟩ := member
    simp only [readKeywords, Members.get?]
    by_cases hname : name = token
    · subst hname
      simp [Keyword.ofJson]
    · simpa [hname] using ih

namespace Keyword

/-- What is read as data stays as it is. -/
theorem read_data (value : Json) :
    Keyword.read Shape.value.form value = .value value := by
  cases value <;> simp [Keyword.read, Shape.form]

/-- What is read as a schema. -/
theorem read_schema {value : Json} {document : Document}
    (h : Schema.ofJson? value = some document) :
    Keyword.read Shape.single.form value = .schema document := by
  cases value with
  | bool b =>
    cases h
    rfl
  | obj members =>
    cases h
    simp [Keyword.read, Shape.form]
  | null | num | str | arr => cases h

/-- A step in what was read goes where the step in the value goes. -/
theorem step_read {value next : Json} {token : String}
    (h : value.step? token = some next) (form : Form) :
    ∃ form', (Keyword.read form value).step token =
      .ok (Keyword.read form' next) := by
  cases value with
  | obj members =>
    rw [Json.step?] at h
    rw [Keyword.read]
    split
    · exact ⟨.nested, by rw [step, get?_readEntries, h]; rfl⟩
    · split
      · exact ⟨(Shape.ofKeyword token).form, by rw [step, get?_readKeywords, h]; rfl⟩
      · exact ⟨Shape.value.form, by rw [step, h, read_data]; rfl⟩
  | arr items =>
    rw [Json.step?] at h
    rw [Keyword.read]
    split
    · exact ⟨.nested, by rw [step, item?_readItems, h]; rfl⟩
    · exact ⟨Shape.value.form, by rw [step, h, read_data]; rfl⟩
  | null | bool | num | str => cases h

/-- Where an object or an array has no such member or item, what was read of it has
none. -/
theorem step_read_missing {value : Json} {token : String}
    (hinner : value.isInner = true) (h : value.step? token = none) (form : Form) :
    (Keyword.read form value).step token = .error .missing := by
  cases value with
  | obj members =>
    rw [Json.step?] at h
    rw [Keyword.read]
    split
    · rw [step, get?_readEntries, h]
      rfl
    · split
      · rw [step, get?_readKeywords, h]
        rfl
      · rw [step, h]
        rfl
  | arr items =>
    rw [Json.step?] at h
    rw [Keyword.read]
    split
    · rw [step, item?_readItems, h]
      rfl
    · rw [step, h]
      rfl
  | null | bool | num | str => cases hinner

/-- In any other value there is nothing to step to. -/
theorem step_read_dead {value : Json} (houter : value.isInner = false)
    (token : String) (form : Form) :
    ∃ reason, (Keyword.read form value).step token = .error (.dead reason) := by
  cases value with
  | bool b =>
    rw [Keyword.read]
    split <;> exact ⟨_, rfl⟩
  | null | num | str => simp [Keyword.read, step]
  | arr | obj => cases houter

/-- Where the value has no such step, there is none in what was read. -/
theorem step_read_fails {value : Json} {token : String}
    (h : value.step? token = none) (form : Form) :
    ∃ fault, (Keyword.read form value).step token = .error fault := by
  cases hinner : value.isInner with
  | true => exact ⟨.missing, step_read_missing hinner h form⟩
  | false =>
    obtain ⟨reason, hdead⟩ := step_read_dead hinner token form
    exact ⟨.dead reason, hdead⟩

/-- Tokens lead in what was read where they lead in the value, or else to no place. -/
theorem walk_read (pointer : String) {tokens : List String} {value last : Json}
    (h : value.walk? tokens = some last) (form : Form) :
    ∃ form', Keyword.walk pointer tokens (Keyword.read form value) =
      .ok (Keyword.read form' last) := by
  induction tokens generalizing value form with
  | nil =>
    cases h
    exact ⟨form, rfl⟩
  | cons token rest ih =>
    obtain ⟨next, hstep, hrest⟩ := Option.bind_eq_some_iff.mp h
    obtain ⟨form', hread⟩ := step_read hstep form
    rw [Keyword.walk, hread]
    exact ih hrest form'

theorem walk_read_fails (pointer : String) {tokens : List String} {value : Json}
    (h : value.walk? tokens = none) (form : Form) :
    ∃ error, Keyword.walk pointer tokens (Keyword.read form value) =
      .error error := by
  induction tokens generalizing value form with
  | nil => cases h
  | cons token rest ih =>
    cases hstep : value.step? token with
    | none =>
      obtain ⟨fault, hread⟩ := step_read_fails hstep form
      rw [Keyword.walk, hread]
      cases fault <;> exact ⟨_, rfl⟩
    | some next =>
      obtain ⟨form', hread⟩ := step_read hstep form
      rw [Json.walk?_cons hstep] at h
      rw [Keyword.walk, hread]
      exact ih h form'

/-- What was read as a schema is one wherever it stands. -/
theorem ofJson?_of_read {form : Form} {value : Json} {s : Document}
    (h : Keyword.read form value = .schema s) : Schema.ofJson? value = some s := by
  cases value with
  | bool b =>
    rw [Keyword.read] at h
    split at h
    · cases h
      rfl
    · cases h
  | obj members =>
    rw [Keyword.read] at h
    split at h
    · cases h
    · split at h
      · cases h
        rfl
      · cases h
  | arr items =>
    rw [Keyword.read] at h
    split at h <;> cases h
  | null | num | str => simp [Keyword.read] at h

/-- As a schema, what was read is the schema that is read from the value. -/
theorem land_read (form : Form) (pointer : String) (value : Json) (s : Document) :
    ((Keyword.read form value).land pointer).map Landing.document = .ok s ↔
      Schema.ofJson? value = some s := by
  have hjson := Keyword.toJson_read form value
  cases hread : Keyword.read form value with
  | schema t =>
    rw [ofJson?_of_read hread]
    simp [land, Except.map, Landing.document]
  | list | map | value =>
    -- lists, maps and data are written and read anew
    rw [hread] at hjson
    rw [land, hjson]
    · cases Schema.ofJson? value with
      | none => simp [Except.map]
      | some t => simp [Except.map, Landing.document]
    · simp

end Keyword

/-- A pointer names the schema that is read from the value its tokens lead to. -/
theorem Schema.at_eq_ok_iff {value : Json} {d : Document}
    (hd : Schema.ofJson? value = some d) {pointer : String} {s : Document} :
    d.at pointer = .ok s ↔
      ∃ place, value.walk? (Pointer.tokens pointer) = some place ∧
        Schema.ofJson? place = some s := by
  rw [Schema.at, Schema.follow]
  split
  · rename_i htokens
    simp only [htokens, Json.walk?, Option.some.injEq, exists_eq_left',
      hd, Except.map, Landing.document, Except.ok.injEq]
  · rw [← Keyword.read_schema hd]
    cases hwalk : value.walk? (Pointer.tokens pointer) with
    | none =>
      obtain ⟨error, hfails⟩ :=
        Keyword.walk_read_fails pointer hwalk Shape.single.form
      simp [hfails, bind, Except.bind, Except.map]
    | some last =>
      obtain ⟨form, hread⟩ := Keyword.walk_read pointer hwalk Shape.single.form
      simp only [hread, bind, Except.bind, Option.some.injEq, exists_eq_left']
      exact Keyword.land_read form pointer last s

/-! ## Pointers that lead nowhere -/

/-- An error of following a pointer, which it names. -/
def DerefError.IsFault (pointer : String) (error : DerefError) : Prop :=
  (∃ token, error = .missingMember pointer token) ∨
    ∃ reason, error = .invalidPointer pointer reason

theorem Keyword.fault_of_walk {ι : Type} {pointer : String} {tokens : List String}
    {place : Keyword ι} {error : DerefError}
    (h : Keyword.walk pointer tokens place = .error error) :
    error.IsFault pointer := by
  induction tokens generalizing place with
  | nil => cases h
  | cons token rest ih =>
    rw [Keyword.walk] at h
    split at h
    · exact ih h
    · cases h
      exact .inl ⟨token, rfl⟩
    · cases h
      exact .inr ⟨_, rfl⟩

theorem Keyword.fault_of_land {ι : Type} {pointer : String} {place : Keyword ι}
    {error : DerefError} (h : place.land pointer = .error error) :
    error.IsFault pointer := by
  cases place with
  | schema s => cases h
  | list | map | value =>
    rw [Keyword.land] at h
    · split at h
      · cases h
      · cases h
        exact .inr ⟨_, rfl⟩
    · simp

/-- Following a pointer fails with an error that names the pointer. -/
theorem Schema.fault_of_follow {ι : Type} {s : Schema ι} {pointer : String}
    {error : DerefError} (h : s.follow pointer = .error error) :
    error.IsFault pointer := by
  rw [Schema.follow] at h
  split at h
  · cases h
  · cases hwalk : Keyword.walk pointer (Pointer.tokens pointer) (.schema s) with
    | error fault =>
      rw [hwalk] at h
      cases h
      exact Keyword.fault_of_walk hwalk
    | ok last =>
      rw [hwalk] at h
      exact Keyword.fault_of_land h

theorem Schema.fault_of_at {d : Document} {pointer : String} {error : DerefError}
    (h : d.at pointer = .error error) : error.IsFault pointer := by
  rw [Schema.at] at h
  cases hfollow : d.follow pointer with
  | error fault =>
    rw [hfollow] at h
    cases h
    exact Schema.fault_of_follow hfollow
  | ok landing =>
    rw [hfollow] at h
    cases h

/-- A fragment that names no place is a pointer that cannot be followed. -/
theorem Document.fault_of_locate {d : Document} {fragment : Option String}
    {error : DerefError} (h : d.locate fragment = .error error) :
    ∃ pointer, error.IsFault pointer := by
  simp only [Document.locate] at h
  split at h
  · cases h
  · split at h
    · cases h
    · exact ⟨_, Schema.fault_of_at h⟩
    · split at h
      · cases h
      · exact ⟨_, Schema.fault_of_at h⟩

/-! ## Well-formed values -/

mutual

/-- What holds of every value in memory: in objects no name occurs twice, and in
arrays every position is a number of sixty-four bits. -/
def Json.WellFormed : Json → Prop
  | .arr items => items.length < Nat.pow 2 64 ∧ WellFormedItems items
  | .obj members => (Members.names members).Nodup ∧ WellFormedMembers members
  | _ => True

def Json.WellFormedItems : List Json → Prop
  | [] => True
  | item :: rest => item.WellFormed ∧ WellFormedItems rest

def Json.WellFormedMembers : List (String × Json) → Prop
  | [] => True
  | (_, value) :: rest => value.WellFormed ∧ WellFormedMembers rest

end

mutual

def Json.decideWellFormed : (value : Json) → Decidable value.WellFormed
  | .arr items =>
    have := decideWellFormedItems items
    inferInstanceAs (Decidable (items.length < Nat.pow 2 64 ∧ WellFormedItems items))
  | .obj members =>
    have := decideWellFormedMembers members
    inferInstanceAs
      (Decidable ((Members.names members).Nodup ∧ WellFormedMembers members))
  | .null | .bool _ | .num _ | .str _ => .isTrue trivial

def Json.decideWellFormedItems :
    (items : List Json) → Decidable (WellFormedItems items)
  | [] => .isTrue trivial
  | item :: rest =>
    have := item.decideWellFormed
    have := decideWellFormedItems rest
    inferInstanceAs (Decidable (item.WellFormed ∧ WellFormedItems rest))

def Json.decideWellFormedMembers :
    (members : List (String × Json)) → Decidable (WellFormedMembers members)
  | [] => .isTrue trivial
  | (_, value) :: rest =>
    have := value.decideWellFormed
    have := decideWellFormedMembers rest
    inferInstanceAs (Decidable (value.WellFormed ∧ WellFormedMembers rest))

end

instance (value : Json) : Decidable value.WellFormed := value.decideWellFormed

namespace Json

theorem WellFormedItems.of_mem {items : List Json} (h : WellFormedItems items)
    {item : Json} (hitem : item ∈ items) : item.WellFormed := by
  induction items with
  | nil => cases hitem
  | cons first rest ih =>
    rw [WellFormedItems] at h
    rcases List.mem_cons.mp hitem with rfl | hitem
    · exact h.1
    · exact ih h.2 hitem

theorem WellFormedMembers.of_mem {members : List (String × Json)}
    (h : WellFormedMembers members) {name : String} {value : Json}
    (hvalue : (name, value) ∈ members) : value.WellFormed := by
  induction members with
  | nil => cases hvalue
  | cons first rest ih =>
    rw [WellFormedMembers] at h
    rcases List.mem_cons.mp hvalue with rfl | hvalue
    · exact h.1
    · exact ih h.2 hvalue

theorem WellFormed.step {value next : Json} {token : String} (h : value.WellFormed)
    (hstep : value.step? token = some next) : next.WellFormed := by
  cases value with
  | obj members =>
    rw [WellFormed] at h
    exact h.2.of_mem (Members.mem_of_get? hstep)
  | arr items =>
    rw [WellFormed] at h
    simp only [step?, Keyword.item?] at hstep
    cases hi : Pointer.index? token with
    | none =>
      rw [hi] at hstep
      cases hstep
    | some i =>
      rw [hi] at hstep
      exact h.2.of_mem (List.mem_of_getElem? hstep)
  | null | bool | num | str => cases hstep

theorem WellFormed.walk {value last : Json} {tokens : List String}
    (h : value.WellFormed) (hwalk : value.walk? tokens = some last) :
    last.WellFormed := by
  induction tokens generalizing value with
  | nil =>
    cases hwalk
    exact h
  | cons token rest ih =>
    obtain ⟨next, hstep, hwalk⟩ := Option.bind_eq_some_iff.mp hwalk
    exact ih (h.step hstep) hwalk

end Json

/-! ## Subschemas -/

/-- The subschema is read from what stands in a value, at the place its pointer
names from this pointer on. -/
def Subschema.LiesIn (sub : Subschema Unit) (pointer : String)
    (value : Json) : Prop :=
  ∃ path place, Pointer.steps sub.pointer = Pointer.steps pointer ++ path ∧
    value.walk? path = some place ∧ Schema.ofJson? place = some sub.schema

theorem Subschema.LiesIn.step {sub : Subschema Unit} {pointer written token : String}
    {value next : Json} (h : sub.LiesIn (pointer ++ "/" ++ written) next)
    (hwritten : Pointer.steps written = [token])
    (hstep : value.step? token = some next) :
    sub.LiesIn pointer value := by
  obtain ⟨path, place, hsteps, hwalk, hplace⟩ := h
  refine ⟨token :: path, place, ?_, ?_, hplace⟩
  · rw [hsteps, Pointer.steps_append, hwritten, List.append_assoc]
    rfl
  · rw [Json.walk?_cons hstep, hwalk]

mutual

/-- A subschema lies at its pointer in the value it was read from. -/
theorem Keyword.liesIn_of_mem {form : Form} {name pointer : String}
    {sub : Subschema Unit} :
    ∀ {value : Json}, value.WellFormed → sub ∈ (Keyword.read form value).subschemas
      name pointer →
      sub.LiesIn pointer value
  | .null, _, h | .num _, _, h | .str _, _, h => by
    simp [Keyword.read, Keyword.subschemas] at h
  | .bool b, _, h => by
    rw [Keyword.read] at h
    split at h
    · rw [Keyword.subschemas, List.mem_singleton] at h
      subst h
      exact ⟨[], _, (List.append_nil _).symm, rfl, rfl⟩
    · simp [Keyword.subschemas] at h
  | .arr items, hwell, h => by
    rw [Json.WellFormed] at hwell
    rw [Keyword.read] at h
    split at h
    · rw [Keyword.subschemas] at h
      obtain ⟨i, item, hitem, hlies⟩ := liesIn_of_mem_items hwell.2 h
      rw [Nat.zero_add] at hlies
      have hi : i < Nat.pow 2 64 :=
        Nat.lt_trans (List.getElem?_eq_some_iff.mp hitem).1 hwell.1
      refine hlies.step (Pointer.steps_toString i) ?_
      rw [Json.step?, Keyword.item?, Pointer.index?_toString hi]
      exact hitem
    · simp [Keyword.subschemas] at h
  | .obj members, hwell, h => by
    rw [Json.WellFormed] at hwell
    rw [Keyword.read] at h
    split at h
    · rw [Keyword.subschemas] at h
      obtain ⟨key, value, hmem, hlies⟩ := liesIn_of_mem_entries hwell.2 h
      exact hlies.step (Pointer.steps_escape key) (Members.get?_of_mem hwell.1 hmem)
    · split at h
      · rw [Keyword.subschemas, List.mem_singleton] at h
        subst h
        exact ⟨[], _, (List.append_nil _).symm, rfl, rfl⟩
      · simp [Keyword.subschemas] at h

theorem liesIn_of_mem_items {name pointer : String} {start : Nat}
    {sub : Subschema Unit} :
    ∀ {items : List Json}, Json.WellFormedItems items →
      sub ∈ subschemasOfItems name pointer start (readItems items) →
      ∃ i item, items[i]? = some item ∧
        sub.LiesIn (pointer ++ "/" ++ toString (start + i)) item
  | [], _, h => by simp [readItems, subschemasOfItems] at h
  | item :: rest, hwell, h => by
    rw [Json.WellFormedItems] at hwell
    rw [readItems, subschemasOfItems, List.mem_append] at h
    rcases h with h | h
    · exact ⟨0, item, rfl, Keyword.liesIn_of_mem hwell.1 h⟩
    · obtain ⟨i, other, hother, hlies⟩ := liesIn_of_mem_items hwell.2 h
      refine ⟨i + 1, other, hother, ?_⟩
      rw [Nat.add_assoc, Nat.add_comm 1 i] at hlies
      exact hlies

theorem liesIn_of_mem_entries {name pointer : String} {sub : Subschema Unit} :
    ∀ {members : List (String × Json)}, Json.WellFormedMembers members →
      sub ∈ subschemasOfEntries name pointer (readEntries members) →
      ∃ key value, (key, value) ∈ members ∧
        sub.LiesIn (pointer ++ "/" ++ Pointer.escape key) value
  | [], _, h => by simp [readEntries, subschemasOfEntries] at h
  | (key, value) :: rest, hwell, h => by
    rw [Json.WellFormedMembers] at hwell
    rw [readEntries, subschemasOfEntries, List.mem_append] at h
    rcases h with h | h
    · exact ⟨key, value, List.mem_cons_self, Keyword.liesIn_of_mem hwell.1 h⟩
    · obtain ⟨key', value', hmem, hlies⟩ := liesIn_of_mem_entries hwell.2 h
      exact ⟨key', value', List.mem_cons_of_mem _ hmem, hlies⟩

end

theorem Keywords.liesIn_of_mem {members : List (String × Json)} {sub : Subschema Unit}
    (hwell : Json.WellFormedMembers members)
    (h : sub ∈ Keywords.subschemas (readKeywords members)) :
    ∃ key value, (key, value) ∈ members ∧ sub.LiesIn (Pointer.escape key) value := by
  induction members with
  | nil => simp [readKeywords, Keywords.subschemas] at h
  | cons member rest ih =>
    obtain ⟨key, value⟩ := member
    rw [Json.WellFormedMembers] at hwell
    rw [readKeywords, Keywords.subschemas, List.flatMap_cons, List.mem_append] at h
    rcases h with h | h
    · by_cases hshape : Shape.ofKeyword key = .value
      · simp [hshape] at h
      · simp only [if_neg hshape] at h
        exact ⟨key, value, List.mem_cons_self, Keyword.liesIn_of_mem hwell.1 h⟩
    · obtain ⟨key', value', hmem, hlies⟩ := ih hwell.2 h
      exact ⟨key', value', List.mem_cons_of_mem _ hmem, hlies⟩

/-- Behind the pointer of an object, the pointer of a subschema leads to it. -/
theorem Schema.at_subschema {value : Json} {d : Document}
    (hd : Schema.ofJson? value = some d) (hwell : value.WellFormed)
    {pointer : String} {keywords : Keywords Unit} {sub : Subschema Unit}
    (h : d.at pointer = .ok (.object () keywords))
    (hsub : sub ∈ Keywords.subschemas keywords) :
    d.at (pointer ++ "/" ++ sub.pointer) = .ok sub.schema := by
  obtain ⟨place, hwalk, hplace⟩ := (Schema.at_eq_ok_iff hd).mp h
  cases place with
  | obj members =>
    cases hplace
    have hmembers := hwell.walk hwalk
    rw [Json.WellFormed] at hmembers
    obtain ⟨key, inner, hmem, path, last, hsteps, hlast, hread⟩ :=
      Keywords.liesIn_of_mem hmembers.2 hsub
    refine (Schema.at_eq_ok_iff hd).mpr ⟨last, ?_, hread⟩
    have hstep : (Json.obj members).step? key = some inner :=
      Members.get?_of_mem hmembers.1 hmem
    rw [Pointer.tokens_append, hsteps, Pointer.steps_escape, Json.walk?_append, hwalk]
    exact (Json.walk?_cons hstep path).trans hlast
  | null | bool | num | str | arr => cases hplace

end SchemaDeref
