import SchemaDeref.Deref.Waiting
import SchemaDeref.Files.Document
import SchemaDeref.Uri.Basic
import SchemaDeref.Uri.Grammar

/-!
# Documents from a folder

A folder as a source of documents. An absolute URI is served by the file with the
name of its last segment, a relative one by the file at that path.
-/

namespace SchemaDeref.Folder

/-- The file a URI stands for, if it stands for any. -/
def path? (folder uri : String) : Option String :=
  let name? := match Uri.read? none uri with
    | some uri => uri.lastSegment?
    | none => some (String.ofList (uri.toList.takeWhile (· != '#')))
  (name?.filter (!·.isEmpty)).map (Path.join folder)

/-- The document for a URI; none if there is no such file. -/
def load (files : Files) (folder uri : String) : Except LoadError (Option Document) :=
  match path? folder uri with
  | none => .ok none
  | some path =>
    if files.isThere path then (Document.ofFile files path).map some else .ok none

/-- What a folder answers. -/
def reply (files : Files) (folder uri : String) : Reply :=
  match load files folder uri with
  | .ok (some document) => .document document
  | .ok none => .absent
  | .error error => .failed error.message

def loader (files : Files) (folder : String) : Loader :=
  .ofFunction (reply files folder)

/-- The answers of a folder wait for the file system: one look later it is known
whether the file is there, one more and it has been read. -/
def delay (files : Files) (folder : String) : Delay := .ofFunction fun uri =>
  match path? folder uri with
  | none => 0
  | some path => if files.isThere path then 2 else 1

end SchemaDeref.Folder
