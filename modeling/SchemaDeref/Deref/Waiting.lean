import SchemaDeref.Deref.Basic

/-!
# Waiting for the loader

A loader that takes its time stops the branch that asked it, but not the branches
beside. A call is looked at again and again. At each look every branch that has not
ended goes on, in the order the branches are written in, until it ends or waits once
more. The first failure ends the call, whatever other branches are waiting for.

The branches share the catalog, the requests and the memo, so what one of them finds
there depends on how long the others have waited. Without delays no branch waits,
and the call is that of `dereference`.

Groups of branches are looked at alike, however large they are. A scheduler may look
at large ones (of more than thirty branches) in the order the answers come in, and
hold a failure back until the branches before it have ended; this is left out, and
makes no difference where nothing waits.
-/

namespace SchemaDeref

/-- How many more looks it takes until the answer to a request is there, by the
requests before it. -/
abbrev Delay := List String → String → Nat

namespace Delay

/-- The answers are there at once. -/
def none : Delay := fun _ _ => 0

/-- A delay that does not change. -/
def ofFunction (f : String → Nat) : Delay := fun _ uri => f uri

end Delay

/-- What a look at some work finds: that it has ended, or that it waits and how it
goes on with the run it is given at the next look. -/
inductive Poll (α : Type) where
  | ended (result : Except DerefError α) (run : Run)
  | waiting (run : Run) (resume : Run → Poll α)

namespace Poll

variable {α β : Type}

/-- A value that is there after so many more looks. -/
def late (a : α) : Nat → Run → Poll α
  | 0, run => ended (.ok a) run
  | looks + 1, run => waiting run (late a looks)

/-- Goes on with the value at which some work ends. -/
def andThen (next : α → Run → Poll β) : Poll α → Poll β
  | ended (.ok a) run => next a run
  | ended (.error error) run => ended (.error error) run
  | waiting run resume => waiting run fun later => (resume later).andThen next

/-- Two pieces of work, the first of which has been looked at. As long as neither
has ended, both are looked at each time, in this order. -/
def both : Poll α → (Run → Poll β) → Poll (α × β)
  | ended (.ok a) run, second =>
    (second run).andThen fun b after => ended (.ok (a, b)) after
  | ended (.error error) run, _ => ended (.error error) run
  | waiting run resume, second =>
    match second run with
    | ended (.ok b) after =>
      waiting after fun later => (resume later).andThen
        fun a last => ended (.ok (a, b)) last
    | ended (.error error) after => ended (.error error) after
    | waiting after resume' => waiting after fun later => (resume later).both resume'

/-- Looks at some work until it ends. -/
def finish : Poll α → Except DerefError α × Run
  | ended result run => (result, run)
  | waiting run resume => (resume run).finish

end Poll

/-- Work whose branches overlap where the loader lets them wait. -/
def Overlapping (_ : Delay) (α : Type) : Type := Run → Poll α

namespace Overlapping

variable {delay : Delay}

instance : Monad (Overlapping delay) where
  pure a := fun run => .ended (.ok a) run
  bind first next := fun run => (first run).andThen next

instance : Execution (Overlapping delay) where
  perform action := fun run =>
    let (result, after) := action.run.run run
    .ended result after
  ask loader uri := fun run =>
    .late (loader run.asked uri) (delay run.asked uri) { run with
      asked := run.asked ++ [uri] }
  both first second := fun run => (first run).both second

end Overlapping

/-- Dereferences a schema in a session, with a loader that answers after a delay. -/
def dereferenceWaiting (delay : Delay) (setup : Setup) (session : Session)
    (schema : Node) :
    Completed :=
  let run : Run :=
    { session with memo := .empty setup.settings.useCache, warnings := [] }
  let (result, run) := (Node.derefRootIn (Overlapping delay) setup schema run).finish
  ⟨result, run.toSession, run.warnings⟩

end SchemaDeref
