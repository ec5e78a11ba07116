import SchemaDeref.Json.Printer
import SchemaDeref.Pointer.Token
import SchemaDeref.Schema.Text

/-!
# Following a pointer

`Schema.follow` walks from a schema along the tokens of a pointer, through schemas,
lists, maps and data alike. Where the walk ends at a schema it gives that very
schema; where it ends at a map or at data, the value is read as a schema anew.
-/

namespace SchemaDeref

variable {ι : Type}

/-! ## Steps -/

/-- The position a token stands for: a decimal numeral of sixty-four bits without
sign or leading zero. -/
def Pointer.index? (token : String) : Option Nat :=
  let digits := token.toList
  let canonical := token == "0" || (digits.head? != some '0' && !digits.isEmpty)
  if canonical && digits.all Char.isDigit then
    let value := digits.foldl (fun acc c => acc * 10 + (c.toNat - 48)) 0
    if value < Nat.pow 2 64 then some value else none
  else none

/-- Why a step cannot be taken. -/
inductive StepFault where
  | missing
  /-- There are no members to step to. -/
  | dead (reason : String)

namespace Keyword

/-- Text between back quotes. -/
def ticked (text : String) : String :=
  let tick := (Char.ofNat 96).toString
  tick ++ text ++ tick

def orMissing {α : Type} : Option α → Except StepFault α
  | some a => .ok a
  | none => .error .missing

/-- The item at the position that a token stands for. -/
def item? {α : Type} (items : List α) (token : String) : Option α :=
  Pointer.index? token >>= fun i => items[i]?

/-- The member or item that a token names. -/
def step (token : String) : Keyword ι → Except StepFault (Keyword ι)
  | .schema (.bool b) =>
    .error (.dead ("cannot descend into boolean schema " ++
      ticked (if b then "true" else "false") ++ " at " ++ Text.quoted token))
  | .schema (.object _ keywords) => orMissing (Members.get? token keywords)
  | .list items => orMissing (item? items token)
  | .map entries => orMissing (Members.get? token entries)
  | .value (.obj members) => orMissing ((Members.get? token members).map .value)
  | .value (.arr items) => orMissing ((item? items token).map .value)
  | .value scalar =>
    .error (.dead ("cannot descend into scalar " ++ ticked scalar.compact ++ " at " ++
      Text.quoted token))

/-- The place that tokens lead to, one after the other. The error names the whole
pointer. -/
def walk (pointer : String) : List String → Keyword ι → Except DerefError (Keyword ι)
  | [], place => .ok place
  | token :: rest, place =>
    match place.step token with
    | .ok next => walk pointer rest next
    | .error .missing => .error (.missingMember pointer token)
    | .error (.dead reason) => .error (.invalidPointer pointer reason)

end Keyword

/-! ## Landing -/

/-- The schema a pointer ends at. -/
inductive Landing (ι : Type) where
  /-- A schema of the document itself. -/
  | found (schema : Schema ι)
  /-- A map or data, read as a schema for the occasion. -/
  | reread (schema : Document)

/-- What a place is as a schema. -/
def Keyword.land (pointer : String) : Keyword ι → Except DerefError (Landing ι)
  | .schema s => .ok (.found s)
  | place =>
    match Schema.ofJson? place.toJson with
    | some document => .ok (.reread document)
    | none =>
      .error (.invalidPointer pointer
        ("target " ++ Keyword.ticked place.toJson.compact ++ " is not a schema"))

namespace Schema

/-- The schema that a pointer names. -/
def follow (schema : Schema ι) (pointer : String) : Except DerefError (Landing ι) :=
  match Pointer.tokens pointer with
  | [] => .ok (.found schema)
  | tokens => do
    let place ← Keyword.walk pointer tokens (.schema schema)
    place.land pointer

end Schema

/-- The schema of a landing in a document, where found and reread schemas are alike. -/
def Landing.document : Landing Unit → Document
  | .found schema => schema
  | .reread schema => schema

/-- The schema that a pointer names in a document. -/
def Schema.at (document : Document) (pointer : String) : Except DerefError Document :=
  (document.follow pointer).map Landing.document

end SchemaDeref
