import SchemaDeref.Command.Failure
import SchemaDeref.Cycles
import SchemaDeref.Json.Printer

/-!
# The command `cycles`

Reports the circular paths of the schema in a file, without dereferencing it.
-/

namespace SchemaDeref

namespace Circle

def toJson (circle : Circle) : Json := .arr (circle.map .str)

/-- Circles for a reader, one a line. -/
def lines (circles : List Circle) : String :=
  if circles.isEmpty then "No circular references found."
  else "\n".intercalate (circles.map Circle.text)

/-- Circles as pretty JSON, an array of arrays. -/
def prettyJson (circles : List Circle) : String :=
  (Json.arr (circles.map toJson)).pretty

end Circle

structure CyclesRequest where
  schema : String
  json : Bool
deriving DecidableEq, Repr

namespace CyclesRequest

/-- The exit status when there are circles. -/
def foundStatus : Nat := 2

def render (request : CyclesRequest) (circles : List Circle) : String :=
  (if request.json then Circle.prettyJson circles else Circle.lines circles) ++ "\n"

/-- The exit status and what is printed. -/
def run (request : CyclesRequest) (files : Files) : Except Failure (Nat × String) :=
  do
  let document ← Document.load files request.schema
  let circles := document.circles
  return (if circles.isEmpty then 0 else foundStatus, request.render circles)

end CyclesRequest

end SchemaDeref
