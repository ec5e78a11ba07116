import SchemaDeref.Text.Basic
import SchemaDeref.Uri.Percent

/-!
# Addresses

Internet addresses of both versions, as hosts write them. Version four takes up to
four numbers in any of three bases, the last of which fills the places left; version
six takes eight groups with one run of zeros left out, and ends in an address of
version four if it likes.
-/

namespace SchemaDeref.Uri

/-! ## Version four -/

namespace IPv4

/-- The value of digits in a base, each given by its own value. -/
def ofDigits (base : Nat) (digits : List Nat) : Nat :=
  digits.foldl (fun acc d => acc * base + d) 0

/-- A number by its base: `0x` for hexadecimal, a leading zero for octal. `0x` alone
is zero. -/
def number? (text : List Char) : Option Nat :=
  let value (base : Nat) (digits : List Char) : Option Nat :=
    (digits.mapM fun c => (hexDigit? c).filter (· < base)).map (ofDigits base)
  match text with
  | [] => none
  | '0' :: 'x' :: digits | '0' :: 'X' :: digits => value 16 digits
  | '0' :: d :: digits => value 8 (d :: digits)
  | digits => value 10 digits

/-- The parts of a dotted host; one dot at the end does not count. -/
def parts (host : List Char) : List (List Char) :=
  let pieces := Text.splitOn '.' host
  if pieces.length > 1 && pieces.getLast? == some [] then pieces.dropLast else pieces

/-- Whether a host must be read as an address: its last part is a number, or would
like to be. -/
def isMeant (host : List Char) : Bool :=
  match (parts host).getLast? with
  | some last => (!last.isEmpty && last.all Char.isDigit) || (number? last).isSome
  | none => false

/-- The address of a dotted host. -/
def parse? (host : List Char) : Option Nat := do
  let parts := parts host
  if parts.length > 4 then failure
  let numbers ← parts.mapM number?
  let last ← numbers.getLast?
  let others := numbers.dropLast
  if last ≥ Nat.pow 256 (4 - others.length) || others.any (· > 255) then failure
  return ofDigits 256 others * Nat.pow 256 (4 - others.length) + last

/-- Four decimal numbers. -/
def text (address : Nat) : String :=
  ".".intercalate ([3, 2, 1, 0].map fun i => toString (address / Nat.pow 256 i % 256))

end IPv4

/-! ## Version six -/

namespace IPv6

/-- One group: up to four hexadecimal digits. -/
def group? (text : List Char) : Option Nat :=
  if text.isEmpty || text.length > 4 then none
  else (text.mapM hexDigit?).map (IPv4.ofDigits 16)

/-- One number of a trailing address of version four: decimal, without leading zeros. -/
def octet? (text : List Char) : Option Nat :=
  if text.isEmpty || !text.all Char.isDigit ||
    (text.length > 1 && text.head? == some '0') then none
  else
    let value := IPv4.ofDigits 10 (text.map fun c => c.toNat - 48)
    if value > 255 then none else some value

/-- The last part of an address: one group, or two groups written as four numbers. -/
def lastGroups? (text : List Char) : Option (List Nat) :=
  match Text.splitOn '.' text with
  | [_] => (group? text).map fun g => [g]
  | pieces => do
    match ← pieces.mapM octet? with
    | [a, b, c, d] => return [256 * a + b, 256 * c + d]
    | _ => failure

/-- The groups between colons, of which the last may be of either kind if the text
ends there. -/
def groups? (atEnd : Bool) (text : List Char) : Option (List Nat) :=
  if text.isEmpty then some []
  else do
    let pieces := Text.splitOn ':' text
    let front ← pieces.dropLast.mapM group?
    let last ← pieces.getLast?
    let back ← if atEnd then lastGroups? last else (group? last).map fun g => [g]
    return front ++ back

/-- Splits at the first pair of colons. -/
def splitAtGap : List Char → List Char × Option (List Char)
  | [] => ([], none)
  | ':' :: ':' :: rest => ([], some rest)
  | c :: rest =>
    let (front, back) := splitAtGap rest
    (c :: front, back)

/-- The eight groups of an address. -/
def parse? (text : List Char) : Option (List Nat) := do
  match splitAtGap text with
  | (all, none) =>
    let groups ← groups? true all
    if groups.length == 8 then return groups else failure
  | (front, some back) =>
    let front ← groups? false front
    let back ← groups? true back
    let zeros := 8 - (front.length + back.length)
    if front.length + back.length > 7 then failure
    return front ++ List.replicate zeros 0 ++ back

/-- The lengths of the runs of zeros that start at each position. -/
def zeroRuns : List Nat → List Nat
  | [] => []
  | g :: rest =>
    let runs := zeroRuns rest
    (if g == 0 then runs.headD 0 + 1 else 0) :: runs

def joinGroups (groups : List Nat) : String :=
  ":".intercalate (groups.map fun g => String.ofList (Nat.toDigits 16 g))

/-- Groups in lower-case hexadecimal, the first of the longest runs of zeros left
out if it is longer than one. -/
def text (groups : List Nat) : String :=
  let runs := zeroRuns groups
  let longest := runs.foldl max 0
  if longest < 2 then joinGroups groups
  else
    let start := runs.findIdx (· == longest)
    joinGroups (groups.take start) ++ "::" ++
      joinGroups (groups.drop (start + longest))

end IPv6

end SchemaDeref.Uri
