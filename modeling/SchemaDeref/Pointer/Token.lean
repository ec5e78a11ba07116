import SchemaDeref.Text.Basic

/-!
# Pointer tokens

A token names one member. Inside a pointer `~` is written `~0` and `/` is written
`~1`, so a pointer splits at its slashes. Reading is more lenient than writing: a
`~` that starts neither form stands for itself.
-/

namespace SchemaDeref.Pointer

/-! ## Escapes -/

def escapeChars : List Char → List Char
  | [] => []
  | '~' :: rest => '~' :: '0' :: escapeChars rest
  | '/' :: rest => '~' :: '1' :: escapeChars rest
  | c :: rest => c :: escapeChars rest

def unescapeChars : List Char → List Char
  | [] => []
  | '~' :: '1' :: rest => '/' :: unescapeChars rest
  | '~' :: '0' :: rest => '~' :: unescapeChars rest
  | c :: rest => c :: unescapeChars rest

/-- The written form of a token. -/
def escape (token : String) : String := String.ofList (escapeChars token.toList)

/-- The token a written form stands for. -/
def unescape (written : String) : String :=
  String.ofList (unescapeChars written.toList)

/-! ## Splitting -/

/-- A pointer without the mark of a fragment. -/
def withoutHash : List Char → List Char
  | '#' :: rest => rest
  | pointer => pointer

/-- The pieces of a pointer that name members. One slash in front of the first name
may be left out, and the empty pointer names nothing. -/
def written (pointer : List Char) : List (List Char) :=
  match withoutHash pointer with
  | [] => []
  | path =>
    match Text.splitOn '/' path with
    | [] :: rest => rest
    | all => all

/-- The tokens of a pointer, in the forms `#/a/b`, `/a/b` and `a/b`. -/
def tokens (pointer : String) : List String :=
  (written pointer.toList).map fun piece => String.ofList (unescapeChars piece)

end SchemaDeref.Pointer
