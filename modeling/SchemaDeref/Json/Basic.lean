import SchemaDeref.Number.Basic

/-!
# JSON values

Objects are lists of members in strictly ascending order of their names, so a name
occurs once and iteration has one order. `Members.insert` and `Members.get?` are the
keyed view of such a list and serve every sorted map of the library.
-/

namespace SchemaDeref

/-! ## Sorted maps -/

/-- A map from names to values as a list of entries in ascending order of the names. -/
abbrev Members (α : Type) := List (String × α)

namespace Members

variable {α β : Type}

def get? (name : String) : Members α → Option α
  | [] => none
  | (n, value) :: rest => if n = name then some value else get? name rest

def contains (name : String) (members : Members α) : Bool :=
  (members.get? name).isSome

def names (members : Members α) : List String := members.map Prod.fst

/-- Sets the value of a name, in place of an earlier value if there is one. -/
def insert (name : String) (value : α) : Members α → Members α
  | [] => [(name, value)]
  | (n, old) :: rest =>
    if name < n then (name, value) :: (n, old) :: rest
    else if n = name then (name, value) :: rest
    else (n, old) :: insert name value rest

def erase (name : String) : Members α → Members α
  | [] => []
  | (n, old) :: rest => if n = name then rest else (n, old) :: erase name rest

/-- Lays `upper` onto `members`: its values win. -/
def overwrite (members upper : Members α) : Members α :=
  upper.foldl (fun acc (name, value) => acc.insert name value) members

/-- Sorts entries by name; of two with one name the later wins. -/
def ofList (entries : List (String × α)) : Members α := overwrite [] entries

end Members

/-! ## Values -/

inductive Json where
  | null
  | bool (value : Bool)
  | num (value : Number)
  | str (value : String)
  | arr (items : List Json)
  | obj (members : List (String × Json))
deriving Repr, Inhabited

namespace Json

/-- The kind of a value, as messages call it. -/
def kindName : Json → String
  | .null => "null"
  | .bool _ => "boolean"
  | .num _ => "number"
  | .str _ => "string"
  | .arr _ => "array"
  | .obj _ => "object"

/-! ## Equality of values -/

mutual

/-- Whether two values are equal, numbers by `Number.sameValue`. -/
def same : Json → Json → Bool
  | .null, .null => true
  | .bool a, .bool b => a == b
  | .num a, .num b => a.sameValue b
  | .str a, .str b => a == b
  | .arr as, .arr bs => sameItems as bs
  | .obj as, .obj bs => sameMembers as bs
  | _, _ => false

def sameItems : List Json → List Json → Bool
  | [], [] => true
  | a :: as, b :: bs => same a b && sameItems as bs
  | _, _ => false

def sameMembers : List (String × Json) → List (String × Json) → Bool
  | [], [] => true
  | (m, a) :: as, (n, b) :: bs => m == n && same a b && sameMembers as bs
  | _, _ => false

end

/-! ## Views -/

def str? : Json → Option String
  | .str s => some s
  | _ => none

def bool? : Json → Option Bool
  | .bool b => some b
  | _ => none

def items? : Json → Option (List Json)
  | .arr items => some items
  | _ => none

def members? : Json → Option (Members Json)
  | .obj members => some members
  | _ => none

/-- The value of a member of an object. -/
def get? (name : String) : Json → Option Json
  | .obj members => Members.get? name members
  | _ => none

end Json

end SchemaDeref
