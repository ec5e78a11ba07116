import SchemaDeref.Uri.Host
import SchemaDeref.Uri.Path

/-!
# URIs

A URI in parts, and the text it is written as.
-/

namespace SchemaDeref

namespace Uri

/-- Who and where: credentials, host and port. -/
structure Authority where
  username : String
  password : String
  host : Host
  /-- A port other than the usual one of the scheme. -/
  port : Option Nat
deriving DecidableEq, Repr

def Authority.ofHost (host : Host) : Authority := ⟨"", "", host, none⟩

/-- Credentials as they stand before the host. -/
def credentials (username password : String) : String :=
  if username.isEmpty && password.isEmpty then ""
  else username ++ (if password.isEmpty then "" else ":" ++ password) ++ "@"

def Authority.text (a : Authority) : String :=
  "//" ++ credentials a.username a.password ++ a.host.text ++
    (match a.port with
    | some port => ":" ++ toString port
    | none => "")

/-- What follows the authority. -/
inductive Hierarchy where
  /-- A text without inner structure, as in `urn:a:b`; nothing can be relative to it. -/
  | flat (text : String)
  | segments (segments : List String)
deriving DecidableEq, Repr

end Uri

/-- A URI. -/
structure Uri where
  scheme : String
  authority : Option Uri.Authority
  path : Uri.Hierarchy
  query : Option String
  fragment : Option String
deriving DecidableEq, Repr

namespace Uri

/-! ## Schemes -/

def defaultPort? : String → Option Nat
  | "http" | "ws" => some 80
  | "https" | "wss" => some 443
  | "ftp" => some 21
  | _ => none

def SchemeKind.ofScheme (scheme : String) : SchemeKind :=
  ⟨(defaultPort? scheme).isSome || scheme == "file", scheme == "file"⟩

def kind (uri : Uri) : SchemeKind := .ofScheme uri.scheme

/-! ## Text -/

/-- Segments with a slash in front of each. -/
def segmentsText (segments : List String) : String :=
  String.join (segments.map ("/" ++ ·))

/-- The path as it is written. Without an authority a path must not start like one. -/
def pathText (uri : Uri) : String :=
  match uri.path with
  | .flat text => text
  | .segments segments =>
    let guard := match uri.authority, segments with
      | none, "" :: _ :: _ => "/."
      | _, _ => ""
    guard ++ segmentsText segments

def text (uri : Uri) : String :=
  uri.scheme ++ ":" ++ (uri.authority.map Authority.text).getD "" ++ uri.pathText ++
    (uri.query.map ("?" ++ ·)).getD "" ++ (uri.fragment.map ("#" ++ ·)).getD ""

/-- The last segment of a path that has any. -/
def lastSegment? (uri : Uri) : Option String :=
  match uri.path with
  | .flat _ => none
  | .segments segments => segments.getLast?

end Uri

end SchemaDeref
