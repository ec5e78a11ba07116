import SchemaDeref.Proofs.Places
import SchemaDeref.Proofs.Views

/-!
# Pointers in values

What a pointer names in a value is told here without any schemas: the text is split
at its slashes, each token is unescaped, objects are entered by name and arrays by
position, and what is reached is read as a schema (`Json.evaluate`). Following the
pointer in the schema that is read from the value comes to the same, success or
failure, whatever lists, maps and data lie on the way (`Schema.follow_eq_evaluate`).
-/

namespace SchemaDeref

/-! ## Splitting a pointer -/

namespace Pointer

/-- A list without its first element if that is `x`. -/
def dropHead {α : Type} [DecidableEq α] (x : α) (list : List α) : List α :=
  if list.head? = some x then list.tail else list

/-- Puts a character for every occurrence of two. -/
def replacePair (first second new : Char) : List Char → List Char
  | c :: d :: rest =>
    if c = first ∧ d = second then new :: replacePair first second new rest
    else c :: replacePair first second new (d :: rest)
  | chars => chars

/-- The tokens of a pointer: one mark of a fragment is dropped, then one empty
segment, and `~1` and then `~0` are replaced. -/
def split (pointer : String) : List String :=
  match dropHead '#' pointer.toList with
  | [] => []
  | path => (dropHead [] (path.splitOn '/')).map fun segment =>
      String.ofList (replacePair '~' '0' '~' (replacePair '~' '1' '/' segment))

theorem splitOn_eq_splitOn (path : List Char) :
    Text.splitOn '/' path = path.splitOn '/' := by
  induction path with
  | nil => rfl
  | cons c rest ih =>
    rw [List.splitOn] at ih ⊢
    rw [Text.splitOn, List.splitOnP_cons_eq_if_modifyHead, ih]
    by_cases hc : c = '/'
    · simp [hc]
    · have hne := List.splitOnP_ne_nil (fun x => x == '/') rest
      obtain ⟨piece, others, heq⟩ := List.exists_cons_of_ne_nil hne
      simp [hc, heq]

theorem withoutHash_eq_dropHead (pointer : List Char) :
    withoutHash pointer = dropHead '#' pointer := by
  cases pointer with
  | nil => rfl
  | cons c rest =>
    by_cases hc : c = '#'
    · subst hc
      rfl
    · rw [dropHead, List.head?_cons, if_neg (by simpa using hc), withoutHash]
      simpa using hc

section

variable {first second new : Char}

theorem replacePair_cons {c : Char} (h : c ≠ first) (rest : List Char) :
    replacePair first second new (c :: rest) = c :: replacePair first second
      new rest := by
  cases rest with
  | nil => rfl
  | cons d rest => rw [replacePair, if_neg fun hpair => h hpair.1]

theorem replacePair_pair (rest : List Char) :
    replacePair first second new (first :: second :: rest) =
      new :: replacePair first second new rest := by
  rw [replacePair, if_pos ⟨rfl, rfl⟩]

theorem replacePair_lone {rest : List Char} (h : rest.head? ≠ some second) :
    replacePair first second new (first :: rest) = first :: replacePair first second
      new rest := by
  cases rest with
  | nil => rfl
  | cons d rest => rw [replacePair, if_neg fun hpair => h (congrArg some hpair.2)]

/-- Replacing brings nothing to the front but what stood there and the new character. -/
theorem head?_replacePair {c : Char} {chars : List Char}
    (h : (replacePair first second new chars).head? = some c) :
    c = new ∨ chars.head? = some c := by
  cases chars with
  | nil => exact .inr h
  | cons d rest =>
    cases rest with
    | nil => exact .inr h
    | cons e rest =>
      rw [replacePair] at h
      split at h
      · exact .inl (Option.some.inj h).symm
      · exact .inr h

end

/-- Reading both escapes in one pass replaces one after the other. -/
theorem unescapeChars_eq_replacePair (chars : List Char) :
    unescapeChars chars = replacePair '~' '0' '~'
      (replacePair '~' '1' '/' chars) := by
  fun_induction unescapeChars chars with
  | case1 => rfl
  | case2 rest ih => rw [replacePair_pair, replacePair_cons (by decide), ih]
  | case3 rest ih =>
    rw [replacePair_lone (by simp), replacePair_cons (show '0' ≠ '~' by decide),
      replacePair_pair, ih]
  | case4 c rest hslash htilde ih =>
    by_cases hc : c = '~'
    · -- a lone `~` stays one, whatever the first pass puts behind it
      subst hc
      have hone : rest.head? ≠ some '1' := by
        intro hhead
        obtain ⟨rest', rfl⟩ := List.head?_eq_some_iff.mp hhead
        exact hslash rest' rfl rfl
      have hzero : (replacePair '~' '1' '/' rest).head? ≠ some '0' := by
        intro hhead
        rcases head?_replacePair hhead with hslash' | hhead
        · exact absurd hslash' (by decide)
        · obtain ⟨rest', rfl⟩ := List.head?_eq_some_iff.mp hhead
          exact htilde rest' rfl rfl
      rw [replacePair_lone hone, replacePair_lone hzero, ih]
    · rw [replacePair_cons hc, replacePair_cons hc, ih]

/-- A pointer is split into its tokens. -/
theorem tokens_eq_split (pointer : String) : tokens pointer = split pointer := by
  rw [tokens, written, split, withoutHash_eq_dropHead]
  cases dropHead '#' pointer.toList with
  | nil => rfl
  | cons c path =>
    simp only [← splitOn_eq_splitOn, ← unescapeChars_eq_replacePair]
    cases Text.splitOn '/' (c :: path) with
    | nil => rfl
    | cons piece rest =>
      cases piece with
      | nil => rfl
      | cons d piece => rfl

/-! ## Positions -/

/-- The position among so many items that a token stands for: the one whose decimal
numeral it is. -/
def position? (length : Nat) (token : String) : Option Nat :=
  (List.range length).find? fun i => toString i == token

theorem position?_eq_some {length i : Nat} {token : String} :
    position? length token = some i ↔ i < length ∧ token = toString i := by
  rw [position?, List.find?_range_eq_some, List.mem_range, beq_iff_eq]
  constructor
  · rintro ⟨htoken, hi, _⟩
    exact ⟨hi, htoken.symm⟩
  · rintro ⟨hi, rfl⟩
    refine ⟨rfl, hi, fun j hj => ?_⟩
    have hne : toString j ≠ toString i := fun h => Nat.ne_of_lt hj (toString_inj.mp h)
    simpa using hne

end Pointer

/-- The items that tokens name are those at the positions they stand for. -/
theorem Keyword.item?_eq_position {α : Type} {items : List α}
    (h : items.length < Nat.pow 2 64) (token : String) :
    Keyword.item? items token = (Pointer.position? items.length token).bind
      fun i => items[i]? := by
  apply Option.ext
  intro item
  rw [Keyword.item?, Option.bind_eq_some_iff, Option.bind_eq_bind,
    Option.bind_eq_some_iff]
  constructor
  · rintro ⟨i, hindex, hitem⟩
    have hi := (List.getElem?_eq_some_iff.mp hitem).1
    exact ⟨i, Pointer.position?_eq_some.mpr ⟨hi, Pointer.eq_of_index? hindex⟩, hitem⟩
  · rintro ⟨i, hposition, hitem⟩
    obtain ⟨hi, rfl⟩ := Pointer.position?_eq_some.mp hposition
    exact ⟨i, Pointer.index?_toString (Nat.lt_trans hi h), hitem⟩

/-! ## Evaluating -/

/-- An error without the text that says why a pointer is invalid. -/
def DerefError.withoutReason : DerefError → DerefError
  | .invalidPointer pointer _ => .invalidPointer pointer ""
  | error => error

/-- What stands at a position or under a name, or the error that there is nothing. -/
def Json.orMissing (pointer token : String) : Option Json → Except DerefError Json
  | some value => .ok value
  | none => .error (.missingMember pointer token)

/-- The schema that tokens lead to in a value. -/
def Json.evaluateFrom (pointer : String) :
    List String → Json → Except DerefError Document
  | [], value =>
    match Schema.ofJson? value with
    | some document => .ok document
    | none => .error (.invalidPointer pointer "")
  | token :: rest, .obj members => do
    let next ← orMissing pointer token (Members.get? token members)
    evaluateFrom pointer rest next
  | token :: rest, .arr items => do
    let next ← orMissing pointer token
      ((Pointer.position? items.length token).bind fun i => items[i]?)
    evaluateFrom pointer rest next
  | _ :: _, _ => .error (.invalidPointer pointer "")

/-- The schema that a pointer names in a value. -/
def Json.evaluate (value : Json) (pointer : String) : Except DerefError Document :=
  value.evaluateFrom pointer (Pointer.split pointer)

namespace Json

theorem evaluateFrom_cons {value : Json} (hwell : value.WellFormed)
    (hinner : value.isInner = true) (pointer token : String) (rest : List String) :
    value.evaluateFrom pointer (token :: rest) =
      (orMissing pointer token (value.step? token)).bind
        (evaluateFrom pointer rest) := by
  cases value with
  | obj members => rfl
  | arr items =>
    rw [WellFormed] at hwell
    rw [evaluateFrom, step?, Keyword.item?_eq_position hwell.1]
    rfl
  | null | bool | num | str => cases hinner

theorem evaluateFrom_dead {value : Json} (houter : value.isInner = false)
    (pointer token : String) (rest : List String) :
    value.evaluateFrom pointer (token :: rest) =
      .error (.invalidPointer pointer "") := by
  cases value with
  | obj | arr => cases houter
  | null | bool | num | str => rfl

end Json

/-! ## Following and evaluating -/

/-- What a place comes to as a document, without reasons. -/
def Keyword.settle (landing : Except DerefError (Landing Unit)) :
    Except DerefError Document :=
  (landing.map Landing.document).mapError DerefError.withoutReason

namespace Keyword

theorem settle_land (form : Form) (pointer : String) (value : Json) :
    settle ((Keyword.read form value).land pointer) = value.evaluateFrom
      pointer [] := by
  have hjson := Keyword.toJson_read form value
  rw [Json.evaluateFrom]
  cases hread : Keyword.read form value with
  | schema s =>
    rw [ofJson?_of_read hread]
    rfl
  | list | map | value =>
    rw [hread] at hjson
    rw [land, hjson]
    · cases Schema.ofJson? value <;> rfl
    · simp

/-- Tokens lead from what was read to where they lead from the value. -/
theorem settle_walk (pointer : String) {value : Json} (hwell : value.WellFormed)
    (form : Form) (tokens : List String) :
    settle (walk pointer tokens (Keyword.read form value) >>= land pointer) =
      value.evaluateFrom pointer tokens := by
  induction tokens generalizing value form with
  | nil => exact settle_land form pointer value
  | cons token rest ih =>
    cases hinner : value.isInner with
    | false =>
      obtain ⟨reason, hdead⟩ := step_read_dead hinner token form
      rw [walk, hdead, Json.evaluateFrom_dead hinner]
      rfl
    | true =>
      rw [Json.evaluateFrom_cons hwell hinner]
      cases hstep : value.step? token with
      | none =>
        rw [walk, step_read_missing hinner hstep]
        rfl
      | some next =>
        obtain ⟨form', hread⟩ := step_read hstep form
        rw [walk, hread]
        exact ih (hwell.step hstep) form'

end Keyword

/-- What a pointer comes to in a schema, without identities and reasons. -/
def Schema.outcome {ι : Type} (s : Schema ι)
    (pointer : String) : Except DerefError Document :=
  ((s.follow pointer).map Landing.erase).mapError DerefError.withoutReason

/-- In a schema that is read from a value, a pointer comes to what it names in the
value: the same schema, the same first token that names nothing, or a place without
members or that is no schema. -/
theorem Schema.follow_eq_evaluate {ι : Type} {value : Json}
    (hwell : value.WellFormed) {s : Schema ι}
    (h : Schema.ofJson? value = some s.erase) (pointer : String) :
    s.outcome pointer = value.evaluate pointer := by
  rw [outcome, ← Schema.at_erase, Schema.at, Schema.follow, Json.evaluate,
    ← Pointer.tokens_eq_split]
  cases Pointer.tokens pointer with
  | nil =>
    rw [Json.evaluateFrom, h]
    rfl
  | cons token rest =>
    rw [← Keyword.read_schema h]
    exact Keyword.settle_walk pointer hwell Shape.single.form (token :: rest)

/-- A value with a map, a list and data, and two names that are written with escapes. -/
def mixedValue : Json :=
  .obj [("$defs", .obj [("a/b", .bool true)]),
    ("items", .arr [.bool false,
      .obj [("const", .arr [.null, .obj [("m~n", .str "x")]])]])]

theorem Schema.follow_eq_evaluate_mixedValue :
    ∃ d : Document, Schema.ofJson? mixedValue = some d ∧
      d.outcome "#/$defs/a~1b" = .ok (.bool true) ∧
      d.outcome "items/1/const/1" = .ok (.object () [("m~n", .value (.str "x"))]) ∧
      d.outcome "/items/1/const/01" =
        .error (.missingMember "/items/1/const/01" "01") ∧
      d.outcome "/items/1/const/1/m~0n/x" =
        .error (.invalidPointer "/items/1/const/1/m~0n/x" "") ∧
      d.outcome "/items" = .error (.invalidPointer "/items" "") := by
  have hwell : mixedValue.WellFormed := by decide
  refine ⟨_, rfl, ?_, ?_, ?_, ?_, ?_⟩
  all_goals
    rw [Schema.follow_eq_evaluate hwell rfl]
    rfl

end SchemaDeref
