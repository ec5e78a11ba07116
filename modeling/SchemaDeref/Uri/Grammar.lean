import SchemaDeref.Uri.Basic

/-!
# Reading URIs

A text is read as a URI alone or relative to another. Blanks and control characters
at the ends are dropped; breaks count nowhere but behind a drive letter, so a file
path is read with them. A relative text takes over, from the URI it is relative to,
whatever stands before the first part it has itself.

Identifiers in schemas are often no URIs at all, so joining never fails: where one
of the two texts cannot be read, the reference stands for itself.
-/

namespace SchemaDeref.Uri

/-! ## Characters that count -/

/-- A text without blanks and control characters at its ends. -/
def trimEnds (text : String) : List Char :=
  let isEdge (c : Char) : Bool := c.toNat ≤ 0x20
  ((text.toList.dropWhile isEdge).reverse.dropWhile isEdge).reverse

def withoutBreaks (text : List Char) : List Char := text.filter (!Path.isBreak ·)

/-- The first character that counts, and the text behind it. -/
def next? : List Char → Option (Char × List Char)
  | [] => none
  | c :: rest => if Path.isBreak c then next? rest else some (c, rest)

/-! ## Scheme, query and fragment -/

def isSchemeChar (c : Char) : Bool := c.isAlphanum || c == '+' || c == '-' || c == '.'

/-- The scheme at the front of a text, in lower case, and what follows its colon. -/
def splitScheme? (text : List Char) : Option (String × List Char) :=
  match text with
  | c :: _ =>
    if c.isAlpha then
      match text.dropWhile fun c => isSchemeChar c || Path.isBreak c with
      | ':' :: rest =>
        let name := withoutBreaks (text.takeWhile (· != ':'))
        some (String.ofList (name.map Char.toLower), rest)
      | _ => none
    else none
  | [] => none

def readFragment (text : List Char) : String :=
  encode encodedInFragment (withoutBreaks text)

/-- Query and fragment, from the mark of the first that is there. -/
def readTail (kind : SchemeKind) (text : List Char) : Option String × Option String :=
  match next? text with
  | some ('#', rest) => (none, some (readFragment rest))
  | some ('?', rest) =>
    let set := if kind.isSpecial then encodedInSpecialQuery else encodedInQuery
    let query := encode set (withoutBreaks (rest.takeWhile (· != '#')))
    match rest.dropWhile (· != '#') with
    | _ :: fragment => (some query, some (readFragment fragment))
    | [] => (some query, none)
  | _ => (none, none)

/-- A URI up to its path, with query and fragment read from the rest. -/
def withTail (scheme : String) (authority : Option Authority) (path : Hierarchy)
    (rest : List Char) : Uri :=
  let (query, fragment) := readTail (.ofScheme scheme) rest
  ⟨scheme, authority, path, query, fragment⟩

/-- A path inside a folder, with what follows it. -/
def withPath (scheme : String) (authority : Option Authority) (folder : Path.Folder)
    (text : List Char) : Uri :=
  let reading := Path.read (.ofScheme scheme) folder text
  withTail scheme authority (.segments reading.segments) reading.rest

/-- A path up to a query or a fragment, taken as it is. -/
def withFlatPath (scheme : String) (text : List Char) : Uri :=
  let isEnd (c : Char) : Bool := c == '?' || c == '#'
  withTail scheme none
    (.flat (encode isControlOrWide (text.takeWhile fun c => !isEnd c)))
    (text.dropWhile fun c => !isEnd c)

/-! ## Authority -/

def isSlash (kind : SchemeKind) (c : Char) : Bool :=
  c == '/' || (kind.isSpecial && c == '\\')

def endsAuthority (kind : SchemeKind) (c : Char) : Bool :=
  isSlash kind c || c == '?' || c == '#'

/-- The credentials before the last `@` of an authority, and the rest of the
authority. -/
def splitCredentials (authority : List Char) : Option (List Char) × List Char :=
  let tail := authority.reverse.takeWhile (· != '@')
  match authority.reverse.dropWhile (· != '@') with
  | _ :: credentials => (some credentials.reverse, tail.reverse)
  | [] => (none, authority)

/-- A host up to the colon of a port; colons in brackets belong to the host. -/
def splitHost (inBrackets : Bool) : List Char → List Char × List Char
  | [] => ([], [])
  | c :: rest =>
    if c == ':' && !inBrackets then ([], c :: rest)
    else
      let (host, after) :=
        splitHost
          (if c == '[' then true else if c == ']' then false else inBrackets) rest
      (c :: host, after)

/-- A port number and what follows it in the authority; no number where it is left
out or is the usual one. Only a path may follow, which a backslash begins under any
scheme. -/
def readPort? (scheme : String) (text : List Char) :
    Option (Option Nat × List Char) :=
  let digits := text.takeWhile Char.isDigit
  let rest := text.dropWhile Char.isDigit
  let port := IPv4.ofDigits 10 (digits.map fun c => c.toNat - 48)
  if port > 0xFFFF || !(rest.isEmpty || rest.head? == some '\\') then none
  else if digits.isEmpty || defaultPort? scheme == some port then some (none, rest)
  else some (some port, rest)

/-- The authority of a URI with a host, and what follows its port. Nothing but the
end of the text may follow an `@` that has neither credentials before it nor a host
after it. -/
def readAuthority? (scheme : String) (text : List Char) (isLast : Bool) :
    Option (Authority × List Char) := do
  let kind := SchemeKind.ofScheme scheme
  let (credentials, place) := splitCredentials text
  let (hostText, portText) := splitHost false place
  let host ← if kind.isSpecial then Host.special? hostText else Host.plain? hostText
  if host.isEmpty && (kind.isSpecial || !portText.isEmpty) then failure
  let (port, rest) ← readPort? scheme (portText.drop 1)
  let chars := credentials.getD []
  let username := encode encodedInUserinfo (chars.takeWhile (· != ':'))
  let password := encode encodedInUserinfo ((chars.dropWhile (· != ':')).drop 1)
  if host.isEmpty && !(username.isEmpty && password.isEmpty) then failure
  if credentials == some [] && place.isEmpty && !isLast then failure
  return (⟨username, password, host, port⟩, rest)

/-- The rest of a URI after the slashes that announce an authority. -/
def readAfterSlashes? (scheme : String) (text : List Char) : Option Uri := do
  let kind := SchemeKind.ofScheme scheme
  let isEnd := endsAuthority kind
  let rest := text.dropWhile fun c => !isEnd c
  let (authority, back) ←
    readAuthority? scheme (text.takeWhile fun c => !isEnd c) rest.isEmpty
  match back ++ rest with
  | [] => return withPathless kind authority
  | c :: after =>
    if isSlash kind c then return withPath scheme authority .root after
    else if kind.isSpecial || c == '\\' then
      return withPath scheme authority .root (c :: after)
    else return withTail scheme authority (.segments []) (c :: after)
where
  /-- A special scheme has a path in any case. -/
  withPathless (kind : SchemeKind) (authority : Authority) : Uri :=
    ⟨scheme, authority, .segments (if kind.isSpecial then [""] else []), none, none⟩

/-! ## Files -/

/-- A file URI after two slashes: the host, unless a drive letter stands in its
place. A drive letter at the front of the path takes the host away. -/
def readFileHost? (text : List Char) : Option Uri := do
  let kind := SchemeKind.ofScheme "file"
  let isEnd := endsAuthority kind
  let hostText := withoutBreaks (text.takeWhile fun c => !isEnd c)
  if hostText.isEmpty || Path.isDriveLetter hostText then
    return withPath "file" (Authority.ofHost .empty) .root text
  let host ← Host.special? hostText
  let rest := text.dropWhile fun c => !isEnd c
  if host == .domain "localhost" then
    return withPath "file" (Authority.ofHost .empty) .root rest
  let path := match rest with
    | c :: after => if isSlash kind c then after else rest
    | [] => []
  let reading := Path.read kind .root path
  let host := if reading.hasDrive then Host.empty else host
  return withTail "file" (Authority.ofHost host) (.segments reading.segments)
    reading.rest

/-- The segments of a path; a flat path has none. -/
def Hierarchy.toList : Hierarchy → List String
  | .flat _ => []
  | .segments list => list

/-- Host and drive letter that a file path with one slash takes over. -/
def fileRoot (base : Option Uri) (rest : List Char) : Host × Path.Folder :=
  match base with
  | none => (.empty, .root)
  | some base =>
    let segments := base.path.toList
    let host := (base.authority.map Authority.host).getD .empty
    if Path.startsWithDriveLetter (withoutBreaks rest) then (.empty, .root)
    else
      match segments.head? with
      | some first =>
        if Path.isNormalDriveLetter first.toList then (.empty, ⟨[first], []⟩)
        else (host, .root)
      | none => (host, .root)

/-- The base as it stands before its query, with query and fragment of a text. -/
def withTailOf (base : Uri) (rest : List Char) : Uri :=
  withTail base.scheme base.authority base.path rest

/-- A file URI after its scheme. -/
def readFile? (base : Option Uri) (text : List Char) : Option Uri :=
  let kind := SchemeKind.ofScheme "file"
  let alone := withPath "file" (Authority.ofHost .empty) .root text
  match next? text with
  | some (c, rest) =>
    if isSlash kind c then
      let withOneSlash :=
        let (host, folder) := fileRoot base rest
        some (withPath "file" (Authority.ofHost host) folder rest)
      match next? rest with
      | some (d, rest') =>
        if isSlash kind d then readFileHost? rest' else withOneSlash
      | none => withOneSlash
    else
      match base with
      | none => some alone
      | some base =>
        if c == '?' then some (withTailOf base text)
        else if c == '#' then some { base with fragment := some (readFragment rest) }
        else if Path.startsWithDriveLetter (withoutBreaks text) then some alone
        else some (withPath "file" base.authority
          (Path.folder kind base.path.toList) text)
  | none =>
    match base with
    | none => some alone
    | some base => some { base with fragment := none }

/-! ## Relative and absolute texts -/

/-- A text without scheme and breaks, relative to a URI that has segments and is no
file. -/
def readRelative? (base : Uri) (text : List Char) : Option Uri :=
  match text with
  | [] => some { base with fragment := none }
  | c :: rest =>
    if c == '?' then some (withTailOf base text)
    else if c == '#' then some { base with fragment := some (readFragment rest) }
    else if c == '/' || c == '\\' then
      match text with
      | '/' :: '/' :: rest' => readAfterSlashes? base.scheme rest'
      | _ =>
        let after := text.dropWhile fun c => c == '/' || c == '\\'
        if text.length - after.length ≥ 2 then readAfterSlashes? base.scheme after
        else some (withPath base.scheme base.authority .root rest)
    else
      some (withPath base.scheme base.authority
        (Path.folder base.kind base.path.toList) text)

/-- A text without breaks behind a scheme that is not the one of files. -/
def readWithScheme? (base : Option Uri) (scheme : String)
    (text : List Char) : Option Uri :=
  let kind := SchemeKind.ofScheme scheme
  if kind.isSpecial then
    let after := text.dropWhile fun c => c == '/' || c == '\\'
    match base with
    | some base =>
      if text.length - after.length < 2 && base.scheme == scheme then
        readRelative? base text
      else readAfterSlashes? scheme after
    | none => readAfterSlashes? scheme after
  else
    match text with
    | '/' :: '/' :: rest => readAfterSlashes? scheme rest
    | '/' :: rest => some (withPath scheme none .root rest)
    | _ => some (withFlatPath scheme text)

/-- A text as a URI, relative to another one if it is given. -/
def read? (base : Option Uri) (text : String) : Option Uri :=
  let chars := trimEnds text
  match splitScheme? chars, base with
  | some (scheme, rest), base =>
    if scheme == "file" then readFile? (base.filter (·.scheme == scheme)) rest
    else readWithScheme? base scheme (withoutBreaks rest)
  | none, none => none
  | none, some base =>
    match next? chars, base.path with
    | some ('#', rest), _ => some { base with fragment := some (readFragment rest) }
    | _, .flat _ => none
    | _, .segments _ =>
      if base.kind.isFile then readFile? (some base) chars
      else readRelative? base (withoutBreaks chars)

/-! ## Joining references -/

/-- A reference relative to a base, or on its own. -/
def join (base : Option String) (reference : String) : String :=
  let joined := match base with
    | some base => do read? (some (← read? none base)) reference
    | none => read? none reference
  match joined with
  | some uri => uri.text
  | none => reference

/-- A text without the last character if that is `c`. -/
def dropLastChar (c : Char) (text : List Char) : List Char :=
  if text.getLast? = some c then text.dropLast else text

/-- The name of a resource: a URI without the mark of an empty fragment. -/
def resourceName (uri : String) : String :=
  String.ofList (dropLastChar '#' uri.toList)

/-- A reference relative to a base, as the name of a resource. -/
def joinName (base : Option String) (reference : String) : String :=
  resourceName (join base reference)

end SchemaDeref.Uri
