import SchemaDeref.Deref.Anchor
import SchemaDeref.Deref.Loader
import SchemaDeref.Deref.Memo
import SchemaDeref.Deref.Scope
import SchemaDeref.Settings

/-!
# The state of a call

A call of dereferencing works on a session, which outlives it, and on a memo of its
own. A step either goes on with a value or fails; what was loaded and warned of
before a failure stays.
-/

namespace SchemaDeref

/-- Something a caller should know of that is no failure. -/
inductive Warning where
  /-- A node has references of several kinds, of which one is followed. -/
  | severalReferences (kinds : List ReferenceKind) (followed : ReferenceKind)
  | loaderFailed (uri error : String)
deriving DecidableEq, Repr

/-- What outlives a call. -/
structure Session where
  catalog : Catalog NodeId
  /-- The URIs the loader was asked for, in order. -/
  asked : List String
  /-- The identity of the next new object. -/
  next : NodeId

namespace Session

def empty : Session := ⟨.empty, [], 0⟩

instance : Inhabited Session := ⟨empty⟩

/-- A document of the session, with identities of its own. -/
def mint (session : Session) (document : Schema ι) : Node × Session :=
  let (node, next) := document.mint session.next
  (node, { session with next })

end Session

structure Run extends Session where
  memo : Memo
  warnings : List Warning

/-- A step of a call. -/
abbrev Action (α : Type) := ExceptT DerefError (StateM Run) α

/-- What a call works with. -/
structure Setup where
  settings : Settings
  loader : Loader

namespace Action

/-! ## Memo -/

def updateMemo (f : Memo → Memo) : Action Unit :=
  modify fun run => { run with memo := f run.memo }

def recallReference (base : Option String) (target : String) : Action (Option Node) :=
  modifyGet fun run =>
    let (hit, memo) := run.memo.recallReference base target
    (hit, { run with memo })

def recallNode (node : Node) : Action (Option Node) :=
  modifyGet fun run =>
    let (hit, memo) := run.memo.recallNode node
    (hit, { run with memo })

/-! ## Identities -/

/-- A new object. -/
def newObject (keywords : Keywords NodeId) : Action Node :=
  modifyGet fun run => (.object run.next keywords, { run with next := run.next + 1 })

/-- A document as nodes of the session. -/
def mint (document : Document) : Action Node :=
  modifyGet fun run =>
    let (node, session) := run.toSession.mint document
    (node, { run with toSession := session })

/-- The node a pointer or a fragment ends at; what had to be read anew becomes a new
node. -/
def arrive : Except DerefError (Landing NodeId) → Action Node
  | .ok (.found node) => pure node
  | .ok (.reread document) => mint document
  | .error error => throw error

/-! ## Warnings and documents -/

def warn (warning : Warning) : Action Unit :=
  modify fun run => { run with warnings := run.warnings ++ [warning] }

def register (node : Node) (uri : Option String) : Action Unit :=
  modify fun run => { run with catalog := run.catalog.register node uri }

/-- Asks the loader. -/
def request (loader : Loader) (uri : String) : Action Reply :=
  modifyGet fun run =>
    (loader run.asked uri, { run with asked := run.asked ++ [uri] })

/-- What comes of an answer: the document, which then is registered, or a failure. -/
def settle (uri reference : String) : Reply → Action Node
  | .document document => do
    let node ← mint document
    register node (some uri)
    return node
  | .absent => throw (.unresolved reference)
  | .failed message => do
    warn (.loaderFailed uri message)
    throw (.loader uri message)
  | .refused error => do
    warn (.loaderFailed uri error.message)
    throw error

end Action

end SchemaDeref
