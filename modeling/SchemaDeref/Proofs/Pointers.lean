import Mathlib.Data.List.Induction
import SchemaDeref.Pointer.Follow

/-!
# The text of pointers

A pointer with a slash and more behind it goes on with the tokens of what is behind
(`tokens_append`). An escaped token is one piece that stands for the token. A
position has one numeral that stands for it, and that is how it is written
(`index?_toString`, `eq_of_index?`).
-/

namespace SchemaDeref

/-! ## Pieces -/

namespace Text

theorem splitOn_ne_nil (separator : Char) (text : List Char) :
    splitOn separator text ≠ [] := by
  cases text with
  | nil => simp [splitOn]
  | cons c rest =>
    simp only [splitOn]
    split
    · simp
    · split <;> simp

theorem splitOn_append (separator : Char) (text rest : List Char) :
    splitOn separator (text ++ separator :: rest) =
      splitOn separator text ++ splitOn separator rest := by
  induction text with
  | nil => simp [splitOn]
  | cons c text ih =>
    rw [List.cons_append, splitOn, splitOn, ih]
    by_cases hc : c = separator
    · rw [if_pos hc, if_pos hc, List.cons_append]
    · rw [if_neg hc, if_neg hc]
      obtain ⟨piece, others, hpieces⟩ :=
        List.exists_cons_of_ne_nil (splitOn_ne_nil separator text)
      rw [hpieces]
      rfl

theorem splitOn_of_not_mem {separator : Char} {text : List Char}
    (h : separator ∉ text) :
    splitOn separator text = [text] := by
  induction text with
  | nil => rfl
  | cons c rest ih =>
    obtain ⟨hc, hrest⟩ := not_or.mp (mt List.mem_cons.mpr h)
    rw [splitOn, if_neg (Ne.symm hc), ih hrest]

end Text

namespace Pointer

/-! ## Tokens -/

/-- The token a piece stands for. -/
def reading (piece : List Char) : String := String.ofList (unescapeChars piece)

/-- The tokens between the slashes. -/
def steps (path : String) : List String := (Text.splitOn '/' path.toList).map reading

theorem steps_append (path rest : String) :
    steps (path ++ "/" ++ rest) = steps path ++ steps rest := by
  have hslash : (path ++ "/" ++ rest).toList = path.toList ++ '/' :: rest.toList := by
    simp [String.toList_append]
  rw [steps, hslash, Text.splitOn_append, List.map_append]
  rfl

/-- The pieces that name members, without the slash in front. -/
private def named (path : List Char) : List (List Char) :=
  match path with
  | [] => []
  | path =>
    match Text.splitOn '/' path with
    | [] :: rest => rest
    | all => all

private theorem named_append (path rest : List Char) :
    named (path ++ '/' :: rest) = named path ++ Text.splitOn '/' rest := by
  cases path with
  | nil => simp [named, Text.splitOn]
  | cons c path =>
    have hpieces := Text.splitOn_append '/' (c :: path) rest
    rw [List.cons_append] at hpieces
    simp only [List.cons_append, named, hpieces]
    obtain ⟨piece, others, heq⟩ :=
      List.exists_cons_of_ne_nil (Text.splitOn_ne_nil '/' (c :: path))
    rw [heq]
    cases piece <;> rfl

private theorem written_eq_named (pointer : List Char) :
    written pointer = named (withoutHash pointer) := by
  unfold written named
  generalize withoutHash pointer = path
  cases path <;> rfl

theorem written_append (pointer rest : List Char) :
    written (pointer ++ '/' :: rest) = written pointer ++ Text.splitOn '/' rest := by
  have hhash : withoutHash (pointer ++ '/' :: rest) = withoutHash pointer ++
      '/' :: rest := by
    cases pointer with
    | nil => rfl
    | cons c pointer =>
      by_cases hc : c = '#'
      · subst hc
        rfl
      · simp [withoutHash, hc]
  rw [written_eq_named, written_eq_named, hhash, named_append]

/-- What is appended behind a slash is stepped along afterwards. -/
theorem tokens_append (pointer path : String) :
    tokens (pointer ++ "/" ++ path) = tokens pointer ++ steps path := by
  have hslash : (pointer ++ "/" ++ path).toList = pointer.toList ++ '/' ::
      path.toList := by
    simp [String.toList_append]
  rw [tokens, hslash, written_append, List.map_append]
  rfl

/-! ## Escapes -/

theorem unescapeChars_cons {c : Char} (h : c ≠ '~') (rest : List Char) :
    unescapeChars (c :: rest) = c :: unescapeChars rest := by
  rw [unescapeChars]
  · rintro _ rfl
    exact absurd rfl h
  · rintro _ rfl
    exact absurd rfl h

theorem escapeChars_cons {c : Char} (htilde : c ≠ '~') (hslash : c ≠ '/')
    (rest : List Char) :
    escapeChars (c :: rest) = c :: escapeChars rest := by
  rw [escapeChars]
  · exact htilde
  · exact hslash

theorem unescapeChars_escapeChars (chars : List Char) :
    unescapeChars (escapeChars chars) = chars := by
  induction chars with
  | nil => rfl
  | cons c rest ih =>
    by_cases htilde : c = '~'
    · subst htilde
      simp only [escapeChars, unescapeChars, ih]
    · by_cases hslash : c = '/'
      · subst hslash
        simp only [escapeChars, unescapeChars, ih]
      · rw [escapeChars_cons htilde hslash, unescapeChars_cons htilde, ih]

theorem slash_not_mem_escapeChars (chars : List Char) : '/' ∉ escapeChars chars := by
  induction chars with
  | nil => simp [escapeChars]
  | cons c rest ih =>
    by_cases htilde : c = '~'
    · subst htilde
      simp [escapeChars, ih]
    · by_cases hslash : c = '/'
      · subst hslash
        simp [escapeChars, ih]
      · rw [escapeChars_cons htilde hslash, List.mem_cons, not_or]
        exact ⟨Ne.symm hslash, ih⟩

/-- A written token is one step, to what it is written for. -/
@[simp] theorem steps_escape (token : String) : steps (escape token) = [token] := by
  rw [steps, escape, String.toList_ofList,
    Text.splitOn_of_not_mem (slash_not_mem_escapeChars _), List.map_singleton,
    reading, unescapeChars_escapeChars, String.ofList_toList]

/-! ## Positions -/

theorem toList_toString (i : Nat) : (toString i).toList = Nat.toDigits 10 i := by
  rw [Nat.toString_eq_ofList_toDigits, String.toList_ofList]

theorem toString_inj {i j : Nat} : toString i = toString j ↔ i = j := by
  constructor
  · intro h
    have hdigits := congrArg String.toList h
    rw [toList_toString, toList_toString] at hdigits
    have hvalue := congrArg (fun digits => Nat.ofDigitChars 10 digits 0) hdigits
    simpa only [Nat.ofDigitChars_ten_toDigits] using hvalue
  · intro h
    rw [h]

theorem isDigit_toString {i : Nat} {c : Char} (h : c ∈ (toString i).toList) :
    c.isDigit = true := by
  rw [toList_toString] at h
  exact Nat.isDigit_of_mem_toDigits (by decide) (by decide) h

theorem unescapeChars_of_digits {digits : List Char}
    (h : ∀ c ∈ digits, c.isDigit = true) :
    unescapeChars digits = digits := by
  induction digits with
  | nil => rfl
  | cons c rest ih =>
    obtain ⟨hc, hrest⟩ := List.forall_mem_cons.mp h
    have htilde : c ≠ '~' := by
      rintro rfl
      cases hc
    rw [unescapeChars_cons htilde, ih hrest]

/-- A written position is one step. -/
@[simp] theorem steps_toString (i : Nat) : steps (toString i) = [toString i] := by
  have hslash : '/' ∉ (toString i).toList := by
    intro hmem
    cases isDigit_toString hmem
  rw [steps, Text.splitOn_of_not_mem hslash, List.map_singleton, reading,
    unescapeChars_of_digits fun c hc => isDigit_toString hc, String.ofList_toList]

/-- The number that digits stand for. -/
theorem foldl_digits (digits : List Char) :
    digits.foldl (fun acc c => acc * 10 + (c.toNat - 48)) 0 = Nat.ofDigitChars 10
      digits 0 := by
  rw [Nat.ofDigitChars_eq_foldl]
  congr
  funext acc c
  rw [Nat.mul_comm]
  rfl

/-- Digits without a leading zero. -/
def Canonical (digits : List Char) : Prop :=
  digits = ['0'] ∨ digits ≠ [] ∧ digits.head? ≠ some '0'

theorem canonical_toDigits (i : Nat) : Canonical (Nat.toDigits 10 i) := by
  induction i using Nat.strongRecOn with
  | ind i ih =>
    by_cases hsmall : i < 10
    · rw [Nat.toDigits_of_lt_base hsmall]
      by_cases hzero : i = 0
      · subst hzero
        exact .inl rfl
      · refine .inr ⟨by simp, ?_⟩
        simpa using hzero
    · have hten : 10 ≤ i := Nat.le_of_not_lt hsmall
      rw [Nat.toDigits_of_base_le (by decide) hten]
      refine .inr ⟨by simp, ?_⟩
      rcases ih (i / 10) (by omega) with hfront | ⟨hne, hhead⟩
      · -- the front of a numeral of several digits is no zero
        have hvalue := congrArg (fun digits => Nat.ofDigitChars 10 digits 0) hfront
        simp only [Nat.ofDigitChars_ten_toDigits] at hvalue
        have : i / 10 = 0 := hvalue
        omega
      · obtain ⟨c, rest, hcons⟩ := List.exists_cons_of_ne_nil hne
        rw [hcons] at hhead ⊢
        exact hhead

theorem index?_eq_some {token : String} {i : Nat} :
    index? token = some i ↔ Canonical token.toList ∧
      (∀ c ∈ token.toList, c.isDigit = true) ∧
      Nat.ofDigitChars 10 token.toList 0 = i ∧ i < Nat.pow 2 64 := by
  have hzero : token = "0" ↔ token.toList = ['0'] := by
    rw [← String.toList_inj]
    rfl
  have hcanonical : (token == "0" ||
      (token.toList.head? != some '0' && !token.toList.isEmpty)) = true ↔
        Canonical token.toList := by
    simp only [Canonical, Bool.or_eq_true, beq_iff_eq, hzero, Bool.and_eq_true,
      bne_iff_ne, ne_eq, Bool.not_eq_true', List.isEmpty_eq_false_iff]
    exact or_congr_right And.comm
  simp only [index?, foldl_digits, Option.ite_none_right_eq_some, Option.some.injEq,
    Bool.and_eq_true, hcanonical, List.all_eq_true]
  constructor
  · rintro ⟨⟨hcanonical, hdigits⟩, hlt, rfl⟩
    exact ⟨hcanonical, hdigits, rfl, hlt⟩
  · rintro ⟨hcanonical, hdigits, rfl, hlt⟩
    exact ⟨⟨hcanonical, hdigits⟩, hlt, rfl⟩

/-- A position is read as it is written. -/
theorem index?_toString {i : Nat} (h : i < Nat.pow 2 64) :
    index? (toString i) = some i := by
  refine index?_eq_some.mpr ⟨?_, fun c hc => isDigit_toString hc, ?_, h⟩
  · rw [toList_toString]
    exact canonical_toDigits i
  · rw [toList_toString, Nat.ofDigitChars_ten_toDigits]

theorem digit_lt {c : Char} (h : c.isDigit = true) : c.toNat - 48 < 10 := by
  obtain ⟨hzero, hnine⟩ := Char.isDigit_iff_toNat.mp h
  exact Nat.sub_lt_right_of_lt_add hzero (Nat.lt_succ_of_le hnine)

theorem toDigits_digit {c : Char} (h : c.isDigit = true) :
    Nat.toDigits 10 (c.toNat - 48) = [c] := by
  have hchar : (c.toNat - 48).digitChar = c := by
    apply Char.toNat_inj.mp
    rw [Nat.toNat_digitChar_of_lt_ten (digit_lt h)]
    exact Nat.add_sub_of_le (Char.isDigit_iff_toNat.mp h).1
  rw [Nat.toDigits_of_lt_base (digit_lt h), hchar]

theorem toDigits_ofDigitChars {digits : List Char}
    (hdigits : ∀ c ∈ digits, c.isDigit = true) (h : Canonical digits) :
    Nat.toDigits 10 (Nat.ofDigitChars 10 digits 0) = digits := by
  -- from the front, since a numeral grows at its last digit
  induction digits using List.reverseRec with
  | nil =>
    rcases h with h | ⟨h, _⟩
    · cases h
    · exact absurd rfl h
  | append_singleton front c ih =>
    obtain ⟨hfront, hc⟩ := List.forall_mem_append.mp hdigits
    replace hc := hc c List.mem_cons_self
    have hdigit := toDigits_digit hc
    rw [Nat.ofDigitChars_append, Nat.ofDigitChars_cons, Nat.ofDigitChars_nil]
    by_cases hempty : front = []
    · subst hempty
      rw [Nat.ofDigitChars_nil, Nat.mul_zero, Nat.zero_add]
      exact hdigit
    · have hhead : front.head? ≠ some '0' := by
        rcases h with h | ⟨_, h⟩
        · exact absurd (List.append_eq_singleton_iff.mp h) (by simp [hempty])
        · obtain ⟨first, rest, rfl⟩ := List.exists_cons_of_ne_nil hempty
          exact h
      have heq := ih hfront (.inr ⟨hempty, hhead⟩)
      have hpos : 0 < Nat.ofDigitChars 10 front 0 := by
        refine Nat.pos_of_ne_zero fun hzero => ?_
        rw [hzero] at heq
        rw [← heq] at hhead
        exact hhead rfl
      calc Nat.toDigits 10 (10 * Nat.ofDigitChars 10 front 0 + (c.toNat - 48))
          = Nat.toDigits 10 (Nat.ofDigitChars 10 front 0) ++ Nat.toDigits 10
            (c.toNat - 48) :=
            (Nat.toDigits_append_toDigits (by decide) hpos (digit_lt hc)).symm
        _ = front ++ [c] := by rw [heq, hdigit]

/-- Only the numeral of a position stands for it. -/
theorem eq_of_index? {token : String} {i : Nat} (h : index? token = some i) :
    token = toString i := by
  obtain ⟨hcanonical, hdigits, rfl, _⟩ := index?_eq_some.mp h
  apply String.toList_injective
  rw [toList_toString, toDigits_ofDigitChars hdigits hcanonical]

end Pointer

end SchemaDeref
