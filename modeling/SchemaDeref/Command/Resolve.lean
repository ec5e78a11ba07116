import SchemaDeref.Command.Failure
import SchemaDeref.Command.Notice
import SchemaDeref.Deref.Waiting
import SchemaDeref.Files.Folder
import SchemaDeref.Json.Printer

/-!
# The command `resolve`

Dereferences the schema in a file, with a folder as the source of other documents,
and prints the result or writes it to a file.
-/

namespace SchemaDeref

structure ResolveRequest where
  schema : String
  /-- The folder of other documents, if it is not the one of the schema. -/
  schemaDir : Option String
  maxDepth : Option Nat
  cyclePolicy : Option CyclePolicy
  noCache : Bool
  /-- The file for the result, instead of the standard output. -/
  out : Option String
  compact : Bool
deriving DecidableEq, Repr

/-- Where the result of a command goes. -/
inductive Delivery where
  | print (text : String)
  | file (path text : String)
deriving DecidableEq, Repr

/-- What a call of the command leads to. -/
structure Resolved where
  result : Except Failure Delivery
  notices : List Notice
  /-- The files that were asked for as sources, in order. -/
  sources : List String

namespace ResolveRequest

/-- The settings with those of the request laid over. -/
def overlay (request : ResolveRequest) (settings : Settings) : Settings where
  maxDepth := request.maxDepth.getD settings.maxDepth
  cyclePolicy := request.cyclePolicy.getD settings.cyclePolicy
  useCache := settings.useCache && !request.noCache

/-- The folder of other documents: the one requested, or else the one the schema
lies in. -/
def folder (request : ResolveRequest) : String :=
  match request.schemaDir with
  | some folder => folder
  | none =>
    let parent := Path.parent request.schema
    if parent.isEmpty then "." else parent

/-- The written form of a result. -/
def render (request : ResolveRequest) (schema : Node) : String :=
  (if request.compact then schema.toJson.compact else schema.toJson.pretty) ++ "\n"

/-- Where a text goes, if it can go there. -/
def deliver (request : ResolveRequest) (files : Files)
    (text : String) : Except Failure Delivery :=
  match request.out with
  | none => .ok (.print text)
  | some path =>
    match files.refusal path with
    | none => .ok (.file path text)
    | some fault => .error (.ofFile ("failed to write " ++ path) fault)

/-- Dereferences a document that has been read. -/
def runOn (request : ResolveRequest) (files : Files) (settings : Settings)
    (document : Document) :
    Resolved :=
  let (schema, session) := Session.empty.mint document
  let loader := Folder.loader files request.folder
  let delay := Folder.delay files request.folder
  let completed :=
    dereferenceWaiting delay ⟨request.overlay settings, loader⟩ session schema
  let warnings := completed.warnings.map Notice.ofWarning
  let sources := completed.session.asked.filterMap (Folder.path? request.folder)
  match completed.result with
  | .error error =>
    ⟨.error (.ofDeref ("failed to resolve " ++ request.schema) error),
      warnings, sources⟩
  | .ok report =>
    ⟨request.deliver files (request.render report.schema),
      warnings ++ report.edges.map Notice.ofEdge, sources⟩

def run (request : ResolveRequest) (files : Files) (settings : Settings) : Resolved :=
  match Document.load files request.schema with
  | .error failure => ⟨.error failure, [], []⟩
  | .ok document => request.runOn files settings document

end ResolveRequest

end SchemaDeref
