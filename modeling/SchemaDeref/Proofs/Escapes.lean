import SchemaDeref.Proofs.Evaluation

/-!
# Escapes

A token is written by replacing each `~` and then each `/`, and read by replacing
each `~1` and then each `~0`. The library does either in one pass. That comes to the
same, as no replacement touches what the one before it has put in
(`escapeChars_eq_replaceEach`, `unescapeChars_eq_replacePair`). Reading undoes
writing, and writing undoes reading for those texts that are written forms: without
a slash, and with an escape at each `~` (`escape_inverse`).
-/

namespace SchemaDeref.Pointer

/-- Puts a text for every occurrence of a character. -/
def replaceEach (old : Char) (new chars : List Char) : List Char :=
  chars.flatMap fun c => if c = old then new else [c]

theorem replaceEach_cons (old : Char) (new : List Char) (c : Char)
    (rest : List Char) :
    replaceEach old new (c :: rest) = (if c = old then new else [c]) ++
      replaceEach old new rest := by
  rw [replaceEach, List.flatMap_cons]
  rfl

/-- Writing both escapes in one pass replaces one character after the other. -/
theorem escapeChars_eq_replaceEach (chars : List Char) :
    escapeChars chars = replaceEach '/' ['~', '1']
      (replaceEach '~' ['~', '0'] chars) := by
  induction chars with
  | nil => rfl
  | cons c rest ih =>
    by_cases htilde : c = '~'
    · -- the second pass leaves what the first puts in, which has no slash
      subst htilde
      rw [escapeChars, replaceEach_cons, if_pos rfl, List.cons_append,
        List.cons_append, List.nil_append, replaceEach_cons, replaceEach_cons, ih]
      rfl
    · rw [replaceEach_cons, if_neg htilde, List.singleton_append,
        replaceEach_cons, ← ih]
      by_cases hslash : c = '/'
      · subst hslash
        rw [escapeChars, if_pos rfl]
        rfl
      · rw [escapeChars_cons htilde hslash, if_neg hslash, List.singleton_append]

/-- Every `~` is followed by `0` or `1`. -/
def EscapesTildes (chars : List Char) : Prop :=
  ∀ rest, '~' :: rest <:+ chars → rest.head? = some '0' ∨ rest.head? = some '1'

namespace EscapesTildes

theorem of_suffix {chars rest : List Char} (h : EscapesTildes chars)
    (hrest : rest <:+ chars) :
    EscapesTildes rest :=
  fun _ hsuffix => h _ (hsuffix.trans hrest)

/-- Another character in front makes no difference. -/
theorem cons {c : Char} {chars : List Char} (h : EscapesTildes chars) (hc : c ≠ '~') :
    EscapesTildes (c :: chars) := by
  intro rest hsuffix
  rcases List.suffix_cons_iff.mp hsuffix with heq | hsuffix
  · exact absurd (List.cons.inj heq).1.symm hc
  · exact h rest hsuffix

/-- Nor does an escape. -/
theorem escape {digit : Char} {chars : List Char} (h : EscapesTildes chars)
    (hdigit : digit = '0' ∨ digit = '1') : EscapesTildes ('~' :: digit :: chars) := by
  have hother : digit ≠ '~' := by
    rcases hdigit with rfl | rfl <;> decide
  intro rest hsuffix
  rcases List.suffix_cons_iff.mp hsuffix with heq | hsuffix
  · obtain rfl := (List.cons.inj heq).2
    exact hdigit.imp (congrArg some) (congrArg some)
  · exact h.cons hother rest hsuffix

end EscapesTildes

theorem escapesTildes_escapeChars (chars : List Char) :
    EscapesTildes (escapeChars chars) := by
  induction chars with
  | nil =>
    intro rest hsuffix
    cases List.suffix_nil.mp hsuffix
  | cons c rest ih =>
    by_cases htilde : c = '~'
    · subst htilde
      exact ih.escape (.inl rfl)
    · by_cases hslash : c = '/'
      · subst hslash
        exact ih.escape (.inr rfl)
      · rw [escapeChars_cons htilde hslash]
        exact ih.cons htilde

/-- A written form is what is written for the token it stands for. -/
theorem escapeChars_unescapeChars {chars : List Char} (hslash : '/' ∉ chars)
    (htildes : EscapesTildes chars) : escapeChars (unescapeChars chars) = chars := by
  fun_induction unescapeChars chars with
  | case1 => rfl
  | case2 rest ih =>
    have hrest : rest <:+ '~' :: '1' :: rest := List.suffix_append ['~', '1'] rest
    rw [escapeChars,
      ih (fun hmem => hslash (hrest.subset hmem)) (htildes.of_suffix hrest)]
  | case3 rest ih =>
    have hrest : rest <:+ '~' :: '0' :: rest := List.suffix_append ['~', '0'] rest
    rw [escapeChars,
      ih (fun hmem => hslash (hrest.subset hmem)) (htildes.of_suffix hrest)]
  | case4 c rest hone hzero ih =>
    have hrest : rest <:+ c :: rest := List.suffix_cons c rest
    have htilde : c ≠ '~' := by
      rintro rfl
      rcases htildes rest (List.suffix_refl _) with hhead | hhead
      · obtain ⟨rest', rfl⟩ := List.head?_eq_some_iff.mp hhead
        exact hzero rest' rfl rfl
      · obtain ⟨rest', rfl⟩ := List.head?_eq_some_iff.mp hhead
        exact hone rest' rfl rfl
    have hc : c ≠ '/' := by
      rintro rfl
      exact hslash List.mem_cons_self
    rw [escapeChars_cons htilde hc,
      ih (fun hmem => hslash (hrest.subset hmem)) (htildes.of_suffix hrest)]

/-- Escaping is the replacement of `~` by `~0` and then of `/` by `~1`, and
unescaping is that of `~1` by `/` and then of `~0` by `~`. Whatever a text is,
unescaping its escaped form, which has no slash, gives the text again. Escaping its
unescaped form gives the text again just if it has no slash and in it every `~` is
followed by `0` or `1`. -/
theorem escape_inverse (text : String) :
    (escape text).toList = replaceEach '/' ['~', '1']
    (replaceEach '~' ['~', '0'] text.toList) ∧
    (unescape text).toList = replacePair '~' '0' '~'
      (replacePair '~' '1' '/' text.toList) ∧
    unescape (escape text) = text ∧ '/' ∉ (escape text).toList ∧
    (escape (unescape text) = text ↔ '/' ∉ text.toList ∧
      EscapesTildes text.toList) := by
  have hescape : ∀ token : String, (escape token).toList = escapeChars token.toList :=
    fun _ => String.toList_ofList
  have hunescape : (unescape text).toList = unescapeChars text.toList :=
    String.toList_ofList
  refine ⟨?_, ?_, ?_, ?_, ?_, ?_⟩
  · rw [hescape, escapeChars_eq_replaceEach]
  · rw [hunescape, unescapeChars_eq_replacePair]
  · rw [unescape, hescape, unescapeChars_escapeChars, String.ofList_toList]
  · rw [hescape]
    exact slash_not_mem_escapeChars _
  · intro heq
    rw [← heq, hescape]
    exact ⟨slash_not_mem_escapeChars _, escapesTildes_escapeChars _⟩
  · rintro ⟨hslash, htildes⟩
    rw [escape, hunescape, escapeChars_unescapeChars hslash htildes,
      String.ofList_toList]

example : unescape "~01~10" = "~1/0" := by decide

end SchemaDeref.Pointer
