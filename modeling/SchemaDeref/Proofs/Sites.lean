import Mathlib.Data.List.Nodup
import SchemaDeref.Proofs.Catalog
import SchemaDeref.Proofs.Pointers
import SchemaDeref.Schema.Node
import SchemaDeref.Schema.Subschemas

/-!
# Where subschemas stand

A subschema of an object stands under a keyword that holds schemas, behind branches
through lists and maps (`Site`). The subschemas are those at all such sites, in the
order of keywords, positions and keys, and each comes with the pointer that leads
from the object to it (`subschemas_exact`): what is written for a branch is read as
that branch, whatever the key, and where two sites part their pointers do.
-/

namespace SchemaDeref

variable {ι : Type}

/-! ## Branches -/

/-- A step from a list to an item of it, or from a map to the entry of a key. -/
inductive Branch where
  | position (i : Nat)
  | key (name : String)

namespace Branch

/-- The token that names a branch. -/
def token : Branch → String
  | position i => toString i
  | key name => name

/-- How a branch is written in a pointer. -/
def written : Branch → String
  | position i => toString i
  | key name => Pointer.escape name

/-- The order of branches: positions by number, keys by text. -/
inductive Before : Branch → Branch → Prop
  | position {i j : Nat} (h : i < j) : Before (position i) (position j)
  | key {m n : String} (h : m < n) : Before (key m) (key n)

theorem steps_written (branch : Branch) :
    Pointer.steps branch.written = [branch.token] := by
  cases branch with
  | position i => exact Pointer.steps_toString i
  | key name => exact Pointer.steps_escape name

theorem Before.token_ne {a b : Branch} (h : Before a b) : a.token ≠ b.token := by
  cases h with
  | position hlt =>
    exact fun heq => absurd (Pointer.toString_inj.mp heq) (Nat.ne_of_lt hlt)
  | @key m n hlt =>
    rintro (rfl : m = n)
    exact String.lt_irrefl m hlt

/-- Ways that part have different tokens. -/
theorem map_token_ne {as bs : List Branch} (h : List.Lex Before as bs) :
    as.map token ≠ bs.map token := by
  induction h with
  | nil => exact (List.cons_ne_nil _ _).symm
  | cons _ ih => exact fun heq => ih (List.cons.inj heq).2
  | rel hbefore => exact fun heq => hbefore.token_ne (List.cons.inj heq).1

end Branch

namespace Pointer

/-- The pointer that goes on along branches. -/
def along (front : String) (branches : List Branch) : String :=
  branches.foldl (fun pointer branch => pointer ++ "/" ++ branch.written) front

theorem along_cons (front : String) (branch : Branch) (branches : List Branch) :
    along front (branch :: branches) = along (front ++ "/" ++ branch.written)
      branches := rfl

theorem append_along (before front : String) (branches : List Branch) :
    before ++ along front branches = along (before ++ front) branches := by
  induction branches generalizing front with
  | nil => rfl
  | cons branch branches ih =>
    rw [along_cons, along_cons, ih]
    simp only [String.append_assoc]

/-- Every branch is read as it is written. -/
theorem tokens_along (front : String) (branches : List Branch) :
    tokens (along front branches) = tokens front ++ branches.map Branch.token := by
  induction branches generalizing front with
  | nil => rw [List.map_nil, List.append_nil, along, List.foldl_nil]
  | cons branch branches ih =>
    rw [along_cons, ih, tokens_append, branch.steps_written, List.append_assoc]
    rfl

end Pointer

/-! ## What stands in a value -/

/-- `keyword.Holds branches s`: behind these branches through lists and maps stands
this schema. -/
inductive Keyword.Holds : Keyword ι → List Branch → Schema ι → Prop
  | schema (s : Schema ι) : Holds (.schema s) [] s
  | item {items : List (Keyword ι)} {i item branches s}
    (position : items[i]? = some item)
    (holds : Holds item branches s) : Holds (.list items) (.position i :: branches) s
  | entry {entries : List (String × Keyword ι)} {name entry branches s}
    (mem : (name, entry) ∈ entries) (holds : Holds entry branches s) :
    Holds (.map entries) (.key name :: branches) s

/-- What holds of every list and map in memory: every position is a number of
sixty-four bits, and the keys are in ascending order. -/
inductive Keyword.IsOrdered : Keyword ι → Prop
  | schema (s : Schema ι) : IsOrdered (.schema s)
  | list {items : List (Keyword ι)} (length : items.length < Nat.pow 2 64)
    (inner : ∀ item ∈ items, IsOrdered item) : IsOrdered (.list items)
  | map {entries : List (String × Keyword ι)}
    (names : (Members.names entries).Pairwise (· < ·))
    (inner : ∀ entry ∈ entries, IsOrdered entry.2) : IsOrdered (.map entries)
  | value (data : Json) : IsOrdered (.value data)

theorem Members.nodup_of_ascending {α : Type} {members : Members α}
    (h : (names members).Pairwise (· < ·)) : (names members).Nodup :=
  h.imp fun hlt => String.ne_of_lt hlt

/-- The branches lead to the schema that stands behind them. -/
theorem Keyword.Holds.walk {keyword : Keyword ι} {branches : List Branch}
    {s : Schema ι} (h : keyword.Holds branches s) (ordered : keyword.IsOrdered)
    (pointer : String) :
    Keyword.walk pointer (branches.map Branch.token) keyword = .ok (.schema s) := by
  induction h with
  | schema s => rfl
  | @item items i item branches s position holds ih =>
    obtain _ | ⟨length, inner⟩ := ordered
    have hi : i < Nat.pow 2 64 :=
      Nat.lt_trans (List.getElem?_eq_some_iff.mp position).1 length
    have hstep : (Keyword.list items).step (toString i) = .ok item := by
      rw [Keyword.step, Keyword.item?, Pointer.index?_toString hi]
      exact congrArg Keyword.orMissing position
    rw [List.map_cons, Branch.token, Keyword.walk, hstep]
    exact ih (inner item (List.mem_of_getElem? position))
  | @entry entries name entry branches s mem holds ih =>
    obtain _ | _ | ⟨names, inner⟩ := ordered
    have hstep : (Keyword.map entries).step name = .ok entry := by
      rw [Keyword.step, Members.get?_of_mem (Members.nodup_of_ascending names) mem]
      rfl
    rw [List.map_cons, Branch.token, Keyword.walk, hstep]
    exact ih (inner _ mem)

/-! ## Listing it -/

/-- The order of what stands behind branches: by the first branch that is not the
same. -/
def InOrder (places : List (List Branch × Schema ι)) : Prop :=
  places.Pairwise fun p q => List.Lex Branch.Before p.1 q.1

/-- The same schemas behind one branch more. -/
def behind (branch : Branch) (places : List (List Branch × Schema ι)) :
    List (List Branch × Schema ι) :=
  places.map fun place => (branch :: place.1, place.2)

theorem mem_behind {branch : Branch} {places : List (List Branch × Schema ι)}
    {branches : List Branch} {s : Schema ι} :
    (branches, s) ∈ behind branch places ↔ ∃ rest, branches = branch :: rest ∧
      (rest, s) ∈ places := by
  simp only [behind, List.mem_map, Prod.mk.injEq, Prod.exists]
  constructor
  · rintro ⟨rest, t, hmem, rfl, rfl⟩
    exact ⟨rest, rfl, hmem⟩
  · rintro ⟨rest, rfl, hmem⟩
    exact ⟨rest, s, hmem, rfl, rfl⟩

/-- What stands behind one branch comes before what stands behind later ones. -/
theorem InOrder.append {branch : Branch} {places rest : List (List Branch × Schema ι)}
    (h : InOrder places) (hrest : InOrder rest)
    (later : ∀ place ∈ rest, ∃ other branches, place.1 = other :: branches ∧
      branch.Before other) :
    InOrder (behind branch places ++ rest) := by
  refine List.pairwise_append.mpr ⟨List.pairwise_map.mpr (h.imp .cons), hrest, ?_⟩
  rintro ⟨branches, s⟩ hfirst place hplace
  obtain ⟨_, rfl, _⟩ := mem_behind.mp hfirst
  obtain ⟨other, branches', heq, hbefore⟩ := later place hplace
  rw [heq]
  exact .rel hbefore

mutual

/-- The schemas in a value, each with the branches it stands behind. -/
def Keyword.places : Keyword ι → List (List Branch × Schema ι)
  | .schema s => [([], s)]
  | .list items => itemPlaces 0 items
  | .map entries => entryPlaces entries
  | .value _ => []

/-- The schemas in a list whose items are numbered from `start` on. -/
def itemPlaces (start : Nat) : List (Keyword ι) → List (List Branch × Schema ι)
  | [] => []
  | item :: rest =>
    behind (.position start) item.places ++ itemPlaces (start + 1) rest

def entryPlaces : List (String × Keyword ι) → List (List Branch × Schema ι)
  | [] => []
  | (name, entry) :: rest => behind (.key name) entry.places ++ entryPlaces rest

end

mutual

theorem Keyword.mem_places {branches : List Branch} {s : Schema ι} :
    ∀ keyword : Keyword ι, (branches, s) ∈ keyword.places ↔ keyword.Holds branches s
  | .schema t => by
    rw [Keyword.places, List.mem_singleton, Prod.mk.injEq]
    constructor
    · rintro ⟨rfl, rfl⟩
      exact .schema s
    · rintro ⟨⟩
      exact ⟨rfl, rfl⟩
  | .list items => by
    rw [Keyword.places, mem_itemPlaces 0 items]
    constructor
    · rintro ⟨i, item, rest, position, rfl, holds⟩
      rw [Nat.zero_add]
      exact .item position holds
    · rintro ⟨⟩
      rename_i i item rest position holds
      exact ⟨i, item, rest, position, by rw [Nat.zero_add], holds⟩
  | .map entries => by
    rw [Keyword.places, mem_entryPlaces entries]
    constructor
    · rintro ⟨name, entry, rest, mem, rfl, holds⟩
      exact .entry mem holds
    · rintro ⟨⟩
      rename_i name entry rest mem holds
      exact ⟨name, entry, rest, mem, rfl, holds⟩
  | .value data => by
    rw [Keyword.places]
    constructor
    · exact fun h => absurd h List.not_mem_nil
    · rintro ⟨⟩

theorem mem_itemPlaces {branches : List Branch} {s : Schema ι} (start : Nat) :
    ∀ items : List (Keyword ι),
    (branches, s) ∈ itemPlaces start items ↔ ∃ i item rest, items[i]? = some item ∧
      branches = .position (start + i) :: rest ∧ item.Holds rest s
  | [] => by simp [itemPlaces]
  | item :: others => by
    rw [itemPlaces, List.mem_append, mem_behind, mem_itemPlaces (start + 1) others]
    constructor
    · rintro (⟨rest, rfl, hmem⟩ | ⟨i, other, rest, position, rfl, holds⟩)
      · exact ⟨0, item, rest, rfl, rfl, item.mem_places.mp hmem⟩
      · refine ⟨i + 1, other, rest, position, ?_, holds⟩
        rw [Nat.add_assoc, Nat.add_comm 1 i]
    · rintro ⟨i, other, rest, position, rfl, holds⟩
      cases i with
      | zero =>
        cases position
        exact .inl ⟨rest, rfl, item.mem_places.mpr holds⟩
      | succ i =>
        refine .inr ⟨i, other, rest, position, ?_, holds⟩
        rw [Nat.add_assoc, Nat.add_comm 1 i]

theorem mem_entryPlaces {branches : List Branch} {s : Schema ι} :
    ∀ entries : List (String × Keyword ι),
    (branches, s) ∈ entryPlaces entries ↔ ∃ name entry rest, (name, entry) ∈ entries ∧
      branches = .key name :: rest ∧ entry.Holds rest s
  | [] => by simp [entryPlaces]
  | (first, entry) :: others => by
    rw [entryPlaces, List.mem_append, mem_behind, mem_entryPlaces others]
    constructor
    · rintro (⟨rest, rfl, hmem⟩ | ⟨name, other, rest, mem, rfl, holds⟩)
      · exact ⟨first, entry, rest, List.mem_cons_self, rfl, entry.mem_places.mp hmem⟩
      · exact ⟨name, other, rest, List.mem_cons_of_mem _ mem, rfl, holds⟩
    · rintro ⟨name, other, rest, mem, rfl, holds⟩
      rcases List.mem_cons.mp mem with heq | mem
      · cases heq
        exact .inl ⟨rest, rfl, entry.mem_places.mpr holds⟩
      · exact .inr ⟨name, other, rest, mem, rfl, holds⟩

end

mutual

theorem Keyword.inOrder_places :
    ∀ keyword : Keyword ι, keyword.IsOrdered → InOrder keyword.places
  | .schema s, _ => by
    rw [Keyword.places]
    exact List.pairwise_singleton ..
  | .list items, h => by
    obtain _ | ⟨length, inner⟩ := h
    rw [Keyword.places]
    exact inOrder_itemPlaces 0 items inner
  | .map entries, h => by
    obtain _ | _ | ⟨names, inner⟩ := h
    rw [Keyword.places]
    exact inOrder_entryPlaces entries names inner
  | .value _, _ => by
    rw [Keyword.places]
    exact List.Pairwise.nil

theorem inOrder_itemPlaces (start : Nat) : ∀ items : List (Keyword ι),
    (∀ item ∈ items, item.IsOrdered) → InOrder (itemPlaces start items)
  | [], _ => by
    rw [itemPlaces]
    exact List.Pairwise.nil
  | item :: rest, h => by
    obtain ⟨hitem, hrest⟩ := List.forall_mem_cons.mp h
    rw [itemPlaces]
    refine (item.inOrder_places hitem).append
      (inOrder_itemPlaces (start + 1) rest hrest) ?_
    rintro ⟨branches, s⟩ hmem
    obtain ⟨i, other, branches', _, rfl, _⟩ :=
      (mem_itemPlaces (start + 1) rest).mp hmem
    exact ⟨_, _, rfl, .position (by omega)⟩

theorem inOrder_entryPlaces : ∀ entries : List (String × Keyword ι),
    (Members.names entries).Pairwise (· < ·) →
      (∀ entry ∈ entries, entry.2.IsOrdered) →
      InOrder (entryPlaces entries)
  | [], _, _ => by
    rw [entryPlaces]
    exact List.Pairwise.nil
  | (name, entry) :: rest, hnames, h => by
    obtain ⟨hentry, hrest⟩ := List.forall_mem_cons.mp h
    obtain ⟨hlater, hnames⟩ := List.pairwise_cons.mp hnames
    rw [entryPlaces]
    refine (entry.inOrder_places hentry).append
      (inOrder_entryPlaces rest hnames hrest) ?_
    rintro ⟨branches, s⟩ hmem
    obtain ⟨other, _, branches', mem, rfl, _⟩ := (mem_entryPlaces rest).mp hmem
    exact ⟨_, _, rfl, .key (hlater other (List.mem_map_of_mem mem))⟩

end

mutual

theorem Keyword.subschemas_eq_map (name pointer : String) : ∀ keyword : Keyword ι,
    keyword.subschemas name pointer =
      keyword.places.map fun place => ⟨name, Pointer.along pointer place.1, place.2⟩
  | .schema s => rfl
  | .list items => by
    rw [Keyword.subschemas, Keyword.places,
      subschemasOfItems_eq_map name pointer 0 items]
  | .map entries => by
    rw [Keyword.subschemas, Keyword.places,
      subschemasOfEntries_eq_map name pointer entries]
  | .value _ => rfl

theorem subschemasOfItems_eq_map (name pointer : String) (start : Nat) :
    ∀ items : List (Keyword ι),
    subschemasOfItems name pointer start items =
      (itemPlaces start items).map fun place =>
        ⟨name, Pointer.along pointer place.1, place.2⟩
  | [] => rfl
  | item :: rest => by
    rw [subschemasOfItems, itemPlaces, List.map_append, behind, List.map_map,
      item.subschemas_eq_map, subschemasOfItems_eq_map name pointer (start + 1) rest]
    rfl

theorem subschemasOfEntries_eq_map (name pointer : String) :
    ∀ entries : List (String × Keyword ι),
    subschemasOfEntries name pointer entries =
      (entryPlaces entries).map fun place =>
        ⟨name, Pointer.along pointer place.1, place.2⟩
  | [] => rfl
  | (key, entry) :: rest => by
    rw [subschemasOfEntries, entryPlaces, List.map_append, behind, List.map_map,
      entry.subschemas_eq_map, subschemasOfEntries_eq_map name pointer rest]
    rfl

end

/-! ## Sites -/

/-- A schema one level below an object, with where it stands: under a keyword,
behind branches. -/
structure Site (ι : Type) where
  keyword : String
  branches : List Branch
  schema : Schema ι

namespace Site

/-- Whether the site is one of an object with these keywords. -/
def IsIn (keywords : Keywords ι) (site : Site ι) : Prop :=
  ((Shape.ofKeyword site.keyword).isApplicator = true ∨
    Shape.ofKeyword site.keyword = .container) ∧
  ∃ keyword, (site.keyword, keyword) ∈ keywords ∧
    keyword.Holds site.branches site.schema

/-- The way from the object to the site, its keyword first. -/
def path (site : Site ι) : List Branch := .key site.keyword :: site.branches

/-- The order of sites: by keywords, and under one keyword by positions and keys. -/
def Before (a b : Site ι) : Prop := List.Lex Branch.Before a.path b.path

/-- The subschema of a site, with its pointer. -/
def subschema (site : Site ι) : Subschema ι :=
  ⟨site.keyword, Pointer.along (Pointer.escape site.keyword) site.branches,
    site.schema⟩

end Site

/-- What holds of the keywords of every object in memory: their names are in
ascending order, and so are the keys of all maps in them. -/
structure Keywords.IsOrdered (keywords : Keywords ι) : Prop where
  names : (Members.names keywords).Pairwise (· < ·)
  inner : ∀ entry ∈ keywords, entry.2.IsOrdered

/-! ## Pointers of sites -/

theorem Shape.ne_value_iff {shape : Shape} :
    shape ≠ .value ↔ shape.isApplicator = true ∨ shape = .container := by
  cases shape <;> decide

/-- The keywords that hold schemas are known by name. -/
theorem Shape.mem_of_ne_value {name : String} (h : ofKeyword name ≠ .value) :
    name ∈ Vocabulary.items ::
      (Vocabulary.single ++ Vocabulary.list ++ Vocabulary.map ++
        Vocabulary.container) := by
  by_contra hnot
  simp only [List.mem_cons, List.mem_append, not_or] at hnot
  exact h (by simp [ofKeyword, hnot])

/-- Such a keyword is not empty and does not begin with the mark of a fragment. -/
theorem Shape.head?_of_ne_value {name : String} (h : ofKeyword name ≠ .value) :
    ∃ c, name.toList.head? = some c ∧ c ≠ '#' := by
  have hall : ∀ name ∈ Vocabulary.items ::
      (Vocabulary.single ++ Vocabulary.list ++ Vocabulary.map ++
        Vocabulary.container),
      name.toList.head?.any (· ≠ '#') = true := by decide +kernel
  obtain ⟨c, hhead, hc⟩ := (Option.any_eq_true _ _).mp (hall name (mem_of_ne_value h))
  exact ⟨c, hhead, of_decide_eq_true hc⟩

namespace Pointer

theorem written_of_not_mem {c : Char} {path : List Char} (hslash : '/' ∉ path)
    (hhead : path.head? = some c) (hc : c ≠ '#') : written path = [path] := by
  obtain ⟨rest, rfl⟩ := List.head?_eq_some_iff.mp hhead
  have hhash : withoutHash (c :: rest) = c :: rest := by
    simp [withoutHash, hc]
  simp only [written, hhash, Text.splitOn_of_not_mem hslash]

theorem head?_escapeChars (c : Char) (rest : List Char) :
    (escapeChars (c :: rest)).head? = some (if c = '/' then '~' else c) := by
  by_cases htilde : c = '~'
  · subst htilde
    rfl
  · by_cases hslash : c = '/'
    · subst hslash
      rfl
    · rw [escapeChars_cons htilde hslash, if_neg hslash]
      rfl

/-- A pointer that is a written token and nothing else is read as that token, unless
it is empty or begins with the mark of a fragment. -/
theorem tokens_escape {c : Char} {name : String}
    (hhead : name.toList.head? = some c) (hc : c ≠ '#') :
    tokens (escape name) = [name] := by
  obtain ⟨rest, hname⟩ := List.head?_eq_some_iff.mp hhead
  have hne : (if c = '/' then '~' else c) ≠ '#' := by
    split
    · decide
    · exact hc
  have hwritten :=
    written_of_not_mem (slash_not_mem_escapeChars _) (head?_escapeChars c rest) hne
  rw [tokens, escape, String.toList_ofList, hname, hwritten, List.map_singleton,
    unescapeChars_escapeChars, ← hname, String.ofList_toList]

theorem tokens_hash_escape (name : String) :
    tokens ("#/" ++ escape name) = [name] := by
  have happend := tokens_append "#" (escape name)
  rw [steps_escape] at happend
  exact happend

end Pointer

namespace Site

variable {keywords : Keywords ι} {site : Site ι}

theorem IsIn.ne_value (h : site.IsIn keywords) :
    Shape.ofKeyword site.keyword ≠ .value :=
  Shape.ne_value_iff.mpr h.1

theorem IsIn.tokens_pointer (h : site.IsIn keywords) :
    Pointer.tokens site.subschema.pointer = site.path.map Branch.token := by
  obtain ⟨c, hhead, hc⟩ := Shape.head?_of_ne_value h.ne_value
  rw [subschema, Pointer.tokens_along, Pointer.tokens_escape hhead hc]
  rfl

theorem tokens_hash_pointer (site : Site ι) :
    Pointer.tokens ("#/" ++ site.subschema.pointer) = site.path.map Branch.token := by
  rw [subschema, Pointer.append_along, Pointer.tokens_along,
    Pointer.tokens_hash_escape]
  rfl

/-- From the object the tokens of a site lead to its schema, to that very node. -/
theorem IsIn.follow (h : site.IsIn keywords) (ordered : Keywords.IsOrdered keywords)
    (mark : ι) {pointer : String}
    (htokens : Pointer.tokens pointer = site.path.map Branch.token) :
    (Schema.object mark keywords).follow pointer = .ok (.found site.schema) := by
  obtain ⟨_, keyword, mem, holds⟩ := h
  have hstep : (Keyword.schema (.object mark keywords)).step site.keyword =
      .ok keyword := by
    rw [Keyword.step,
      Members.get?_of_mem (Members.nodup_of_ascending ordered.names) mem]
    rfl
  have hwalk := holds.walk (ordered.inner _ mem) pointer
  rw [Schema.follow, htokens, path, List.map_cons, Branch.token]
  simp only [Keyword.walk, hstep, hwalk]
  rfl

/-- Where two sites part, their pointers do. -/
theorem Before.pointer_ne {a b : Site ι} (h : a.Before b) :
    a.subschema.pointer ≠ b.subschema.pointer := by
  intro heq
  apply Branch.map_token_ne h
  rw [← tokens_hash_pointer, ← tokens_hash_pointer, heq]

end Site

/-! ## The sites of an object -/

/-- The sites under a keyword of this name, in order. -/
def Keyword.sites (name : String) (keyword : Keyword ι) : List (Site ι) :=
  if Shape.ofKeyword name = .value then []
  else keyword.places.map fun place => ⟨name, place.1, place.2⟩

theorem Keyword.mem_sites {name : String} {keyword : Keyword ι} {site : Site ι} :
    site ∈ keyword.sites name ↔
      site.keyword = name ∧ Shape.ofKeyword name ≠ .value ∧
        keyword.Holds site.branches site.schema := by
  rw [sites]
  split
  · rename_i hshape
    simp [hshape]
  · rename_i hshape
    constructor
    · intro hsite
      obtain ⟨place, hplace, rfl⟩ := List.mem_map.mp hsite
      exact ⟨rfl, hshape, keyword.mem_places.mp hplace⟩
    · rintro ⟨rfl, _, holds⟩
      exact List.mem_map.mpr ⟨(site.branches, site.schema),
        keyword.mem_places.mpr holds, rfl⟩

theorem Keyword.map_subschema_sites (name : String) (keyword : Keyword ι) :
    (keyword.sites name).map Site.subschema =
      if Shape.ofKeyword name = .value then []
      else keyword.subschemas name (Pointer.escape name) := by
  rw [sites]
  split
  · rfl
  · rw [keyword.subschemas_eq_map, List.map_map]
    rfl

theorem Keyword.pairwise_sites {name : String} {keyword : Keyword ι}
    (h : keyword.IsOrdered) :
    (keyword.sites name).Pairwise Site.Before := by
  rw [sites]
  split
  · exact List.Pairwise.nil
  · exact List.pairwise_map.mpr ((keyword.inOrder_places h).imp .cons)

namespace Keywords

/-- The sites of an object, in order. -/
def sites (keywords : Keywords ι) : List (Site ι) :=
  keywords.flatMap fun entry => entry.2.sites entry.1

theorem mem_sites {keywords : Keywords ι} {site : Site ι} :
    site ∈ sites keywords ↔ site.IsIn keywords := by
  rw [sites, List.mem_flatMap, Site.IsIn, ← Shape.ne_value_iff]
  constructor
  · rintro ⟨⟨name, keyword⟩, mem, hsite⟩
    obtain ⟨rfl, hshape, holds⟩ := Keyword.mem_sites.mp hsite
    exact ⟨hshape, keyword, mem, holds⟩
  · rintro ⟨hshape, keyword, mem, holds⟩
    exact ⟨_, mem, Keyword.mem_sites.mpr ⟨rfl, hshape, holds⟩⟩

theorem subschemas_eq_sites (keywords : Keywords ι) :
    subschemas keywords = (sites keywords).map Site.subschema := by
  rw [sites, List.map_flatMap]
  simp only [Keyword.map_subschema_sites]
  rfl

theorem IsOrdered.pairwise_sites {keywords : Keywords ι} (h : IsOrdered keywords) :
    (sites keywords).Pairwise Site.Before := by
  induction keywords with
  | nil => exact List.Pairwise.nil
  | cons entry rest ih =>
    obtain ⟨hlater, names⟩ := List.pairwise_cons.mp h.names
    obtain ⟨hkeyword, inner⟩ := List.forall_mem_cons.mp h.inner
    rw [sites, List.flatMap_cons]
    refine List.pairwise_append.mpr ⟨Keyword.pairwise_sites hkeyword,
      ih ⟨names, inner⟩, ?_⟩
    intro site hsite other hother
    obtain ⟨hname, _, _⟩ := Keyword.mem_sites.mp hsite
    obtain ⟨_, keyword, mem, _⟩ := mem_sites.mp hother
    refine .rel (.key ?_)
    rw [hname]
    exact hlater _ (List.mem_map_of_mem mem)

end Keywords

/-- The subschemas of an object are the schemas at all sites under its applicators
and containers, once each and in the order of keywords, positions and keys. No two
have the same pointer, and from the object the pointer of each leads to that very
schema, with or without the mark of a fragment in front. -/
theorem Keywords.subschemas_exact {keywords : Keywords ι}
    (h : Keywords.IsOrdered keywords) (mark : ι) :
    (∃ sites : List (Site ι), Keywords.subschemas keywords =
      sites.map Site.subschema ∧
      (∀ site, site ∈ sites ↔ site.IsIn keywords) ∧ sites.Nodup ∧
        sites.Pairwise Site.Before) ∧
    ((Keywords.subschemas keywords).map Subschema.pointer).Nodup ∧
    ∀ sub ∈ Keywords.subschemas keywords,
      (Schema.object mark keywords).follow sub.pointer = .ok (.found sub.schema) ∧
      (Schema.object mark keywords).follow ("#/" ++ sub.pointer) =
        .ok (.found sub.schema) := by
  have hordered := h.pairwise_sites
  have hpointers : ((sites keywords).map fun site => site.subschema.pointer).Nodup :=
    List.pairwise_map.mpr (hordered.imp Site.Before.pointer_ne)
  rw [subschemas_eq_sites, List.map_map]
  refine ⟨⟨sites keywords, rfl, fun _ => mem_sites, List.Nodup.of_map _ hpointers,
    hordered⟩, hpointers, ?_⟩
  intro sub hsub
  obtain ⟨site, hsite, rfl⟩ := List.mem_map.mp hsub
  have isIn := mem_sites.mp hsite
  exact ⟨isIn.follow h mark isIn.tokens_pointer,
    isIn.follow h mark site.tokens_hash_pointer⟩

/-- Definitions under keys that are empty or look like pointers, one of them a list,
and items. -/
def oddKeys : Keywords NodeId :=
  [("$defs", .map [("", .schema (.object 1 [])), ("#", .schema (.bool true)),
      ("a/b", .list [.value .null, .schema (.object 2 [])]),
      ("~0", .schema (.object 3 []))]),
    ("enum", .list [.schema (.object 4 [])]),
    ("items", .list [.schema (.bool false), .schema (.object 5 [])])]

theorem isOrdered_oddKeys : Keywords.IsOrdered oddKeys := by
  refine ⟨by decide +kernel, ?_⟩
  simp only [oddKeys, List.forall_mem_cons]
  refine ⟨.map (by decide +kernel) ?_, .list (by decide) ?_,
    .list (by decide) ?_, by simp⟩
  · simp only [List.forall_mem_cons]
    refine ⟨.schema _, .schema _, .list (by decide) ?_, .schema _, by simp⟩
    simp only [List.forall_mem_cons]
    exact ⟨.value _, .schema _, by simp⟩
  · simp only [List.forall_mem_cons]
    exact ⟨.schema _, by simp⟩
  · simp only [List.forall_mem_cons]
    exact ⟨.schema _, .schema _, by simp⟩

/-- What stands under `enum` is no subschema; the pointers of the others lead to
them. -/
theorem subschemas_exact_oddKeys :
    Keywords.IsOrdered oddKeys ∧
    (Keywords.subschemas oddKeys).map Subschema.pointer =
      ["$defs/", "$defs/#", "$defs/a~1b/1", "$defs/~00", "items/0", "items/1"] ∧
    ((Keywords.subschemas oddKeys).map Subschema.pointer).Nodup ∧
    (Schema.object 0 oddKeys).follow "$defs/a~1b/1" = .ok (.found (.object 2 [])) ∧
    (Schema.object 0 oddKeys).follow "#/$defs/a~1b/1" =
      .ok (.found (.object 2 [])) := by
  obtain ⟨_, nodup, follow⟩ := Keywords.subschemas_exact isOrdered_oddKeys 0
  have mem : (⟨"$defs", "$defs/a~1b/1", .object 2 []⟩ : Subschema NodeId) ∈
      Keywords.subschemas oddKeys :=
    .tail _ (.tail _ (.head _))
  exact ⟨isOrdered_oddKeys, by decide +kernel, nodup, follow _ mem⟩

end SchemaDeref
