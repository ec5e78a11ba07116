import Mathlib.Data.List.Nodup
import Mathlib.Data.List.Perm.Subperm
import Mathlib.Data.List.ProdSigma
import SchemaDeref.Cycles
import SchemaDeref.Proofs.Places

/-!
# Counting pointers

How many pointers lead somewhere in a document. A character of a token can be
written plain or escaped, an array position in one way only, and the mark of a
fragment and the first slash may each be there or not. So all pointers of a list
without repetition that lead somewhere are no more than `Document.pointers`
(`Document.length_le_pointers`).
-/

namespace SchemaDeref

theorem length_flatMap_map {α β γ : Type} (f : α → β → γ) (xs : List α)
    (ys : List β) :
    (xs.flatMap fun x => ys.map (f x)).length = xs.length * ys.length := by
  induction xs with
  | nil => simp
  | cons x xs ih =>
    rw [List.flatMap_cons, List.length_append, List.length_map, ih,
      List.length_cons, Nat.succ_mul, Nat.add_comm]

namespace Pointer

/-! ## Ways to write a token -/

/-- The ways to write a character: plain or, if it has an escape, escaped. -/
def forms (c : Char) : List (List Char) :=
  if c = '~' then [['~'], ['~', '0']] else if c = '/' then [['/'], ['~', '1']]
  else [[c]]

/-- The ways to write a token. -/
def spellings : List Char → List (List Char)
  | [] => [[]]
  | c :: rest => (forms c).flatMap fun form => (spellings rest).map (form ++ ·)

theorem length_forms_le (c : Char) : (forms c).length ≤ 2 := by
  simp only [forms]
  split
  · simp
  · split <;> simp

theorem plain_mem_forms (c : Char) : [c] ∈ forms c := by
  simp only [forms]
  split
  · rename_i hc
    simp [hc]
  · split
    · rename_i hc
      simp [hc]
    · simp

theorem length_spellings_le (chars : List Char) :
    (spellings chars).length ≤ Nat.pow 2 chars.length := by
  induction chars with
  | nil => simp [spellings]
  | cons c rest ih =>
    have hforms := length_forms_le c
    calc (spellings (c :: rest)).length
        = (forms c).length * (spellings rest).length := length_flatMap_map ..
      _ ≤ 2 * Nat.pow 2 rest.length := Nat.mul_le_mul hforms ih
      _ = Nat.pow 2 (c :: rest).length := by
        show _ = 2 ^ (rest.length + 1)
        rw [Nat.pow_succ, Nat.mul_comm]
        rfl

theorem mem_spellings_cons {c : Char} {rest form piece : List Char}
    (hform : form ∈ forms c) (hpiece : piece ∈ spellings rest) :
    form ++ piece ∈ spellings (c :: rest) :=
  List.mem_flatMap.mpr ⟨form, hform, List.mem_map_of_mem hpiece⟩

/-- A piece is one of the ways to write the token it stands for. -/
theorem mem_spellings (piece : List Char) :
    piece ∈ spellings (unescapeChars piece) := by
  induction piece using unescapeChars.induct with
  | case1 => simp [unescapeChars, spellings]
  | case2 rest ih =>
    have hform : ['~', '1'] ∈ forms '/' := by simp [forms]
    rw [unescapeChars]
    exact mem_spellings_cons hform ih
  | case3 rest ih =>
    have hform : ['~', '0'] ∈ forms '~' := by simp [forms]
    rw [unescapeChars]
    exact mem_spellings_cons hform ih
  | case4 c rest hslash htilde ih =>
    rw [unescapeChars]
    · exact mem_spellings_cons (plain_mem_forms c) ih
    · exact hslash
    · exact htilde

/-- There is one way to write digits. -/
theorem spellings_of_digits {digits : List Char}
    (h : ∀ c ∈ digits, c.isDigit = true) :
    spellings digits = [digits] := by
  induction digits with
  | nil => rfl
  | cons c rest ih =>
    obtain ⟨hc, hrest⟩ := List.forall_mem_cons.mp h
    have htilde : c ≠ '~' := by
      rintro rfl
      cases hc
    have hslash : c ≠ '/' := by
      rintro rfl
      cases hc
    simp [spellings, forms, htilde, hslash, ih hrest]

theorem eq_of_index?_reading {piece : List Char} {i : Nat}
    (h : index? (reading piece) = some i) :
    piece = (toString i).toList := by
  have hmem := mem_spellings piece
  have hchars : unescapeChars piece = (toString i).toList := by
    rw [← eq_of_index? h, reading, String.toList_ofList]
  rw [hchars, spellings_of_digits fun c hc => isDigit_toString hc] at hmem
  exact List.mem_singleton.mp hmem

/-! ## Pieces put together -/

/-- Pieces with slashes between them. -/
def joined : List (List Char) → List Char
  | [] => []
  | [piece] => piece
  | piece :: rest => piece ++ '/' :: joined rest

theorem joined_cons {piece : List Char} {rest : List (List Char)} (h : rest ≠ []) :
    joined (piece :: rest) = piece ++ '/' :: joined rest := by
  cases rest with
  | nil => exact absurd rfl h
  | cons => rfl

theorem joined_splitOn (path : List Char) :
    joined (Text.splitOn '/' path) = path := by
  induction path with
  | nil => rfl
  | cons c rest ih =>
    obtain ⟨piece, others, hpieces⟩ :=
      List.exists_cons_of_ne_nil (Text.splitOn_ne_nil '/' rest)
    rw [Text.splitOn]
    by_cases hc : c = '/'
    · rw [if_pos hc, joined_cons (Text.splitOn_ne_nil '/' rest), ih, hc]
      rfl
    · rw [if_neg hc, hpieces]
      rw [hpieces] at ih
      cases others with
      | nil => exact congrArg (c :: ·) ih
      | cons other others => exact congrArg (c :: ·) ih

/-- What there is to know of a pointer: whether it has the mark of a fragment,
whether it has the first slash, and the pieces that name members. -/
def parts (pointer : List Char) : Bool × Bool × List (List Char) :=
  (pointer.head? == some '#', (withoutHash pointer).head? == some '/',
    written pointer)

/-- The pointer with these parts. -/
def ofParts : Bool × Bool × List (List Char) → List Char
  | (hash, slash, pieces) =>
    (if hash then ['#'] else []) ++ (if slash then ['/'] else []) ++ joined pieces

theorem ofParts_parts (pointer : List Char) : ofParts (parts pointer) = pointer := by
  have hpath : (if (withoutHash pointer).head? == some '/' then ['/'] else []) ++
      joined (written pointer) = withoutHash pointer := by
    rw [written]
    cases withoutHash pointer with
    | nil => rfl
    | cons c rest =>
      have hjoined := joined_splitOn (c :: rest)
      by_cases hc : c = '/'
      · subst hc
        simp [Text.splitOn, joined_splitOn]
      · obtain ⟨piece, others, hpieces⟩ :=
          List.exists_cons_of_ne_nil (Text.splitOn_ne_nil '/' rest)
        have hcons : Text.splitOn '/' (c :: rest) = (c :: piece) :: others := by
          rw [Text.splitOn, if_neg hc, hpieces]
        rw [hcons] at hjoined
        simp [hc, hcons, hjoined]
  have hhash : (if pointer.head? == some '#' then ['#'] else []) ++
      withoutHash pointer = pointer := by
    cases pointer with
    | nil => rfl
    | cons c rest =>
      by_cases hc : c = '#'
      · subst hc
        rfl
      · simp [withoutHash, hc]
  rw [ofParts, parts, List.append_assoc, hpath, hhash]

theorem parts_inj {a b : String} (h : parts a.toList = parts b.toList) : a = b := by
  have ha := ofParts_parts a.toList
  rw [h, ofParts_parts] at ha
  exact (String.toList_injective ha).symm

end Pointer

/-! ## Addresses -/

mutual

/-- The pieces that lead to a value itself and to what it holds. -/
def Json.addresses : Json → List (List (List Char))
  | .arr items => [] :: addressesInItems 0 items
  | .obj members => [] :: addressesInMembers members
  | _ => [[]]

def Json.addressesInItems (start : Nat) : List Json → List (List (List Char))
  | [] => []
  | item :: rest =>
    item.addresses.map ((toString start).toList :: ·) ++ addressesInItems
      (start + 1) rest

def Json.addressesInMembers : List (String × Json) → List (List (List Char))
  | [] => []
  | (name, value) :: rest =>
    ((Pointer.spellings name.toList).flatMap fun piece =>
      value.addresses.map (piece :: ·)) ++
      addressesInMembers rest

end

mutual

theorem Json.length_addresses_le :
    ∀ value : Json, value.addresses.length ≤ value.pointers
  | .arr items => by
    have h := length_addressesInItems_le 0 items
    simp only [addresses, pointers, List.length_cons]
    omega
  | .obj members => by
    have h := length_addressesInMembers_le members
    simp only [addresses, pointers, List.length_cons]
    omega
  | .null | .bool _ | .num _ | .str _ => by simp [addresses, pointers]

theorem Json.length_addressesInItems_le (start : Nat) :
    ∀ items : List Json, (addressesInItems start items).length ≤ pointersInItems items
  | [] => by simp [addressesInItems, pointersInItems]
  | item :: rest => by
    have h := item.length_addresses_le
    have hs := length_addressesInItems_le (start + 1) rest
    simp only [addressesInItems, pointersInItems, List.length_append, List.length_map]
    omega

theorem Json.length_addressesInMembers_le :
    ∀ members : List (String × Json), (addressesInMembers members).length ≤
      pointersInMembers members
  | [] => by simp [addressesInMembers, pointersInMembers]
  | (name, value) :: rest => by
    have h := value.length_addresses_le
    have hs := length_addressesInMembers_le rest
    have hspellings := Pointer.length_spellings_le name.toList
    have hmul : (Pointer.spellings name.toList).length * value.addresses.length ≤
        Pointer.writings name * value.pointers := by
      rw [Pointer.writings, ← String.length_toList]
      exact Nat.mul_le_mul hspellings h
    rw [addressesInMembers, pointersInMembers, List.length_append, length_flatMap_map]
    omega

end

theorem Json.mem_addressesInItems (start : Nat) {items : List Json} {i : Nat}
    {item : Json} (h : items[i]? = some item) {address : List (List Char)}
    (haddress : address ∈ item.addresses) :
    (toString (start + i)).toList :: address ∈ addressesInItems start items := by
  induction items generalizing i start with
  | nil => cases h
  | cons first rest ih =>
    rw [addressesInItems]
    cases i with
    | zero =>
      cases h
      exact List.mem_append_left _ (List.mem_map_of_mem haddress)
    | succ i =>
      have htail := ih (start + 1) h
      rw [Nat.add_assoc, Nat.add_comm 1 i] at htail
      exact List.mem_append_right _ htail

theorem Json.mem_addressesInMembers {members : List (String × Json)} {name : String}
    {value : Json} (h : (name, value) ∈ members) {piece : List Char}
    (hpiece : piece ∈ Pointer.spellings name.toList) {address : List (List Char)}
    (haddress : address ∈ value.addresses) :
    piece :: address ∈ addressesInMembers members := by
  induction members with
  | nil => cases h
  | cons first rest ih =>
    obtain ⟨n, v⟩ := first
    rw [addressesInMembers]
    rcases List.mem_cons.mp h with heq | h
    · cases heq
      exact List.mem_append_left _
        (List.mem_flatMap.mpr ⟨piece, hpiece, List.mem_map_of_mem haddress⟩)
    · exact List.mem_append_right _ (ih h)

/-- Pieces that lead somewhere are an address. -/
theorem Json.mem_addresses {value place : Json} {pieces : List (List Char)}
    (h : value.walk? (pieces.map Pointer.reading) = some place) :
    pieces ∈ value.addresses := by
  -- by the pieces: each goes to one value, and the others lead on in it
  induction pieces generalizing value with
  | nil => cases value <;> simp [addresses]
  | cons piece rest ih =>
    obtain ⟨next, hstep, hrest⟩ := Option.bind_eq_some_iff.mp h
    have haddress := ih hrest
    cases value with
    | obj members =>
      rw [addresses]
      have hpiece : piece ∈ Pointer.spellings (Pointer.reading piece).toList := by
        rw [Pointer.reading, String.toList_ofList]
        exact Pointer.mem_spellings piece
      exact List.mem_cons_of_mem _
        (mem_addressesInMembers (Members.mem_of_get? hstep) hpiece haddress)
    | arr items =>
      rw [addresses]
      obtain ⟨i, hi, hitem⟩ := Option.bind_eq_some_iff.mp hstep
      have htail := mem_addressesInItems 0 hitem haddress
      rw [Nat.zero_add, ← Pointer.eq_of_index?_reading hi] at htail
      exact List.mem_cons_of_mem _ htail
    | null | bool | num | str => cases hstep

/-- Different pointers that lead somewhere in a document are no more than the
document has. -/
theorem Document.length_le_pointers {value : Json} {d : Document}
    (hd : Schema.ofJson? value = some d) {pointers : List String}
    (hnodup : pointers.Nodup)
    (h : ∀ pointer ∈ pointers, ∃ s, d.at pointer = .ok s) :
    pointers.length ≤ d.pointers := by
  let all : List (Bool × Bool × List (List Char)) :=
    [true, false] ×ˢ [true, false] ×ˢ value.addresses
  have hall : pointers.map (fun pointer => Pointer.parts pointer.toList) ⊆ all := by
    intro parts hparts
    obtain ⟨pointer, hpointer, rfl⟩ := List.mem_map.mp hparts
    obtain ⟨s, hs⟩ := h pointer hpointer
    obtain ⟨place, hwalk, _⟩ := (Schema.at_eq_ok_iff hd).mp hs
    have hbool : ∀ b : Bool, b ∈ [true, false] := by decide
    refine List.mem_product.mpr ⟨hbool _, List.mem_product.mpr ⟨hbool _, ?_⟩⟩
    exact Json.mem_addresses hwalk
  have hmap : (pointers.map fun pointer => Pointer.parts pointer.toList).Nodup :=
    List.Nodup.map (fun _ _ hab => Pointer.parts_inj hab) hnodup
  have hle := (List.subperm_of_subset hmap hall).length_le
  have hlength : all.length = 4 * value.addresses.length := by
    simp only [all, List.length_product, List.length_cons, List.length_nil]
    omega
  rw [List.length_map, hlength] at hle
  calc pointers.length ≤ 4 * value.addresses.length := hle
    _ ≤ 4 * value.pointers := Nat.mul_le_mul_left 4 value.length_addresses_le
    _ = d.pointers := by rw [Document.pointers, Schema.toJson_of_ofJson? hd]

end SchemaDeref
