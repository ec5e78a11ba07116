import SchemaDeref.Uri.Label

/-!
# Hosts

The host of a URI with a special scheme is a domain name or an address and is
decoded and put into its proper form. Under other schemes it is a text that only has
to keep clear of the marks of the grammar.
-/

namespace SchemaDeref.Uri

inductive Host where
  | domain (name : String)
  | ipv4 (address : Nat)
  | ipv6 (groups : List Nat)
deriving DecidableEq, Repr

namespace Host

def empty : Host := .domain ""

def isEmpty (host : Host) : Bool := host == empty

def text : Host → String
  | .domain name => name
  | .ipv4 address => IPv4.text address
  | .ipv6 groups => "[" ++ IPv6.text groups ++ "]"

/-- Characters no host may hold. -/
def isForbidden (c : Char) : Bool :=
  c ∈ ['\x00', '\t', '\n', '\r', ' ', '#', '/', ':', '<', '>', '?', '@',
    '[', '\\', ']', '^', '|']

/-- Characters no domain name may hold. -/
def isForbiddenInDomain (c : Char) : Bool :=
  isForbidden c || c == '%' || c.toNat < 0x20 || c.toNat ≥ 0x7F

/-- An address in brackets. -/
def bracketed? (chars : List Char) : Option Host :=
  if chars.getLast? == some ']' then (IPv6.parse? chars.dropLast).map .ipv6 else none

/-- The host of a special scheme: a domain name, or an address. -/
def special? : List Char → Option Host
  | '[' :: rest => bracketed? rest
  | chars => do
    let name ← domainName? (← decode? chars)
    if name.isEmpty || name.any isForbiddenInDomain then failure
    if IPv4.isMeant name then (IPv4.parse? name).map .ipv4
    else return .domain (String.ofList name)

/-- The host of any other scheme. -/
def plain? : List Char → Option Host
  | '[' :: rest => bracketed? rest
  | chars =>
    if chars.any isForbidden then none
    else some (.domain (encode isControlOrWide chars))

end Host

end SchemaDeref.Uri
