import SchemaDeref.Yaml.Token

/-!
# Nodes of a YAML document

Tokens composed to a tree. Anchors are numbered as they are read: a new name gets
the next number, a name met before gets the count of names so far. An alias carries
the number its name has at that place; what it stands for is looked up once the
whole tree is known.
-/

namespace SchemaDeref.Yaml

/-! ## Trees -/

/-- What the tag of a node says of its value. -/
inductive Tag where
  | null
  | bool
  | int
  | float
  /-- A name of the author's own, behind one exclamation mark. -/
  | own (name : String)
  /-- A name of the author's own that is no text. It says nothing. -/
  | garbled
  /-- A name that decides no more than that a scalar is a string. -/
  | other
deriving DecidableEq, Repr

/-- What may stand before the content of a node. -/
structure Properties where
  tag : Option Tag
  /-- The number of the anchor. -/
  anchor : Option Nat
deriving DecidableEq, Repr

inductive Node where
  | scalar (properties : Properties) (text : String) (style : Style)
  | sequence (properties : Properties) (items : List Node)
  | mapping (properties : Properties) (entries : List (Node × Node))
  | alias (anchor : Nat)
deriving Repr, Inhabited

namespace Node

/-- A node that is left out. -/
def empty : Node := .scalar ⟨none, none⟩ "" .plain

end Node

/-! ## Tags -/

/-- Where the names of the core schema live. -/
def coreFront : String := "tag:yaml.org,2002:"

/-- The tag of its full name. -/
def Tag.ofName (name : List UInt8) : Tag :=
  let text? := String.fromUTF8? ⟨name.toArray⟩
  if name.head? == some 0x21 then
    match String.fromUTF8? ⟨(name.drop 1).toArray⟩ with
    | some text => .own text
    | none => .garbled
  else if text? == some (coreFront ++ "null") then .null
  else if text? == some (coreFront ++ "bool") then .bool
  else if text? == some (coreFront ++ "int") then .int
  else if text? == some (coreFront ++ "float") then .float
  else .other

/-- What the names behind each handle begin with. -/
abbrev Handles := List (String × List UInt8)

namespace Handles

/-- The handles of every document, unless it gives them another meaning. -/
def standard : Handles := [("!", "!".toUTF8.toList), ("!!", coreFront.toUTF8.toList)]

/-- The tag of its written form; none where the handle is not known. -/
def resolve? (handles : Handles) (tag : WrittenTag) : Option Tag :=
  if tag.handle.isEmpty then some (.ofName tag.suffix)
  else (handles.lookup tag.handle).map fun front => .ofName (front ++ tag.suffix)

/-- The handles of a document with directives; none where these contradict each
other or ask for an unknown version. -/
def ofDirectives? (directives : List Directive) : Option Handles := do
  let versions := directives.filterMap fun directive =>
    match directive with
    | .version major minor => some (major, minor)
    | .handle _ _ => none
  let handles := directives.filterMap fun directive =>
    match directive with
    | .version _ _ => none
    | .handle handle front => some (handle, front)
  let names := handles.map Prod.fst
  if versions.length > 1 || !versions.all (· ∈ [(1, 1), (1, 2)]) then failure
  if names.eraseDups.length != names.length then failure
  return handles ++ standard

end Handles

/-! ## Composing -/

/-- The tokens still to be read, with what is known of the document. -/
structure Supply where
  tokens : List Token
  handles : Handles
  /-- The numbers of the anchors by name. -/
  anchors : List (String × Nat)

/-- A step of composing; none where the text is malformed. -/
abbrev Compose (α : Type) := StateT Supply Option α

namespace Compose

/-- The next token. Behind the end of the text the end goes on. -/
def peek : Compose Token := do return (← get).tokens.headD .streamEnd

def skip : Compose Unit := modify fun supply => { supply with
  tokens := supply.tokens.drop 1 }

/-- Takes the next token if it is the given one. -/
def skipIf (token : Token) : Compose Bool := do
  if (← peek) == token then
    skip
    return true
  else return false

/-- Takes the next token, which must be the given one. -/
def expect (token : Token) : Compose Unit := do
  if !(← skipIf token) then failure

/-- Numbers an anchor. -/
def bindAnchor (name : String) : Compose Nat := do
  let supply ← get
  let number := supply.anchors.length
  let others := supply.anchors.filter fun (n, _) => n != name
  set { supply with anchors := (name, number) :: others }
  return number

def readTag? : Compose (Option Tag) := do
  match ← peek with
  | .tag written =>
    skip
    match (← get).handles.resolve? written with
    | some tag => return some tag
    | none => failure
  | _ => return none

def readAnchor? : Compose (Option Nat) := do
  match ← peek with
  | .anchor name =>
    skip
    return some (← bindAnchor name)
  | _ => return none

/-- A tag and an anchor in either order. -/
def readProperties : Compose Properties := do
  match ← readAnchor? with
  | some anchor => return ⟨← readTag?, some anchor⟩
  | none =>
    let tag ← readTag?
    return ⟨tag, ← readAnchor?⟩

/-- Where a node stands, which decides what may begin it. -/
inductive Place where
  | flow
  | block
  /-- In a block mapping, where the entries of a sequence need no indent of their
  own. -/
  | member
deriving DecidableEq

/-- Whether a value left out may stand before a token in a block mapping. -/
def endsMember (token : Token) : Bool := token ∈ [.key, .value, .blockEnd]

mutual

/-- A node and all below it. The fuel bounds the calls inside one another; every
chain of them takes a token at the second call at the latest. -/
def node : Nat → Place → Compose Node
  | 0, _ => failure
  | fuel + 1, place => do
    if let .alias name ← peek then
      skip
      match (← get).anchors.lookup name with
      | some anchor => return .alias anchor
      | none => failure
    else
      let properties ← readProperties
      match ← peek, place with
      | .blockEntry, .member => return .sequence properties (← bareEntries fuel)
      | .scalar text style, _ =>
        skip
        return .scalar properties text style
      | .flowSequenceStart, _ =>
        skip
        return .sequence properties (← flowItems fuel true)
      | .flowMappingStart, _ =>
        skip
        return .mapping properties (← flowEntries fuel true)
      | .blockSequenceStart, .block | .blockSequenceStart, .member =>
        skip
        return .sequence properties (← blockItems fuel)
      | .blockMappingStart, .block | .blockMappingStart, .member =>
        skip
        return .mapping properties (← blockEntries fuel)
      | _, _ =>
        if properties.tag.isNone && properties.anchor.isNone then failure
        return .scalar properties "" .plain

/-- A node, or an empty one before a token that ends it. -/
def nodeUnless : Nat → Place → (Token → Bool) → Compose Node
  | 0, _, _ => failure
  | fuel + 1, place, ends => do
    if ends (← peek) then return .empty else node fuel place

/-- The items of a block sequence up to its end. -/
def blockItems : Nat → Compose (List Node)
  | 0 => failure
  | fuel + 1 => do
    if ← skipIf .blockEntry then
      let item ← nodeUnless fuel .block fun token => token ∈ [.blockEntry, .blockEnd]
      return item :: (← blockItems fuel)
    else
      expect .blockEnd
      return []

/-- The items of a sequence at the indent of the mapping around it. -/
def bareEntries : Nat → Compose (List Node)
  | 0 => failure
  | fuel + 1 => do
    if ← skipIf .blockEntry then
      let item ← nodeUnless fuel .block fun token => token == .blockEntry ||
          endsMember token
      return item :: (← bareEntries fuel)
    else return []

/-- The entries of a block mapping up to its end. -/
def blockEntries : Nat → Compose (List (Node × Node))
  | 0 => failure
  | fuel + 1 => do
    if ← skipIf .key then
      let key ← nodeUnless fuel .member endsMember
      let value ← if ← skipIf .value then nodeUnless fuel .member endsMember
      else pure .empty
      return (key, value) :: (← blockEntries fuel)
    else
      expect .blockEnd
      return []

/-- The items of a flow sequence up to its end. A key among them begins a mapping of
one entry. -/
def flowItems : Nat → Bool → Compose (List Node)
  | 0, _ => failure
  | fuel + 1, isFirst => do
    if ← skipIf .flowSequenceEnd then return []
    if !isFirst then
      expect .flowEntry
      if ← skipIf .flowSequenceEnd then return []
    let item ← if ← skipIf .key then flowPair fuel else node fuel .flow
    return item :: (← flowItems fuel false)

/-- A mapping of one entry inside a flow sequence, after its key mark. A key left
out takes the token behind it along. -/
def flowPair : Nat → Compose Node
  | 0 => failure
  | fuel + 1 => do
    let isBare := (← peek) ∈ [.value, .flowEntry, .flowSequenceEnd]
    let key ← if isBare then do skip; pure .empty else node fuel .flow
    let value ←
      if ← skipIf .value then
        nodeUnless fuel .flow fun token => token ∈ [.flowEntry, .flowSequenceEnd]
      else pure .empty
    return .mapping ⟨none, none⟩ [(key, value)]

/-- The entries of a flow mapping up to its end. -/
def flowEntries : Nat → Bool → Compose (List (Node × Node))
  | 0, _ => failure
  | fuel + 1, isFirst => do
    if ← skipIf .flowMappingEnd then return []
    if !isFirst then
      expect .flowEntry
      if ← skipIf .flowMappingEnd then return []
    let isMarked ← skipIf .key
    let key ←
      if isMarked then
        nodeUnless fuel .flow fun token =>
          token ∈ [.value, .flowEntry, .flowMappingEnd]
      else node fuel .flow
    let hasValue ← if isMarked then skipIf .value else pure false
    let value ←
      if hasValue then nodeUnless fuel .flow fun token =>
        token ∈ [.flowEntry, .flowMappingEnd]
      else pure .empty
    return (key, value) :: (← flowEntries fuel false)

end

/-! ## Documents -/

/-- Whether a token stands at the border of documents. -/
def isBorder : Token → Bool
  | .directive _ | .documentStart | .documentEnd | .streamEnd => true
  | _ => false

/-- The directives at the front of tokens. -/
def directives : List Token → List Directive
  | .directive directive :: rest => directive :: directives rest
  | _ => []

/-- The only document of a text, with an empty node for no document at all.
Directives need the mark of a document's start behind them; without any, the first
document needs no mark. -/
def document (fuel : Nat) : Compose Node := do
  if (← peek) == .streamEnd then return .empty
  let directives := directives (← get).tokens
  let handles ← Handles.ofDirectives? directives
  modify fun supply =>
    { supply with tokens := supply.tokens.drop directives.length, handles }
  let root ←
    if !directives.isEmpty || (← peek) == .documentStart then do
      expect .documentStart
      nodeUnless fuel .block isBorder
    else node fuel .block
  let ends := (← get).tokens.takeWhile (· == .documentEnd)
  ends.forM fun _ => skip
  if (← peek) != .streamEnd then failure
  return root

end Compose

/-- The tree of a text; none if the text is malformed or holds several documents. -/
def Node.parse? (text : String) : Option Node := do
  let tokens ← tokens text
  let (root, _) ← (Compose.document (4 * tokens.length + 8)).run
      ⟨tokens, .standard, []⟩
  return root

end SchemaDeref.Yaml
