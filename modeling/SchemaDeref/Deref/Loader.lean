import SchemaDeref.Error
import SchemaDeref.Schema.Basic

/-!
# Sources of documents

A loader is asked for documents the catalog does not have. Its answer may depend on
everything it was asked before, so a source that changes over time is a loader too.

A loader says what it answers, and not when. In `dereference` the answer is there at
once; with `dereferenceWaiting` it can be late, and then other branches of the call
go on in the meantime.
-/

namespace SchemaDeref

/-- What a loader answers. -/
inductive Reply where
  | document (document : Document)
  /-- It knows no such document. -/
  | absent
  /-- It failed, for a reason of its own. -/
  | failed (message : String)
  /-- It failed, and says so in the terms of this library. -/
  | refused (error : DerefError)

/-- The answer to a request, by the requests before it, in order. -/
abbrev Loader := List String → String → Reply

namespace Loader

/-- Knows no documents. -/
def none : Loader := fun _ _ => .absent

/-- A loader whose answers do not change. -/
def ofFunction (f : String → Reply) : Loader := fun _ uri => f uri

/-- Answers for every URI by the script of that URI, one line a request; the last
line stands for all requests after it. -/
def ofScripts (script : String → List Reply) : Loader := fun asked uri =>
  let lines := script uri
  (lines[asked.count uri]?).getD (lines.getLast?.getD .absent)

end Loader

end SchemaDeref
