import SchemaDeref.Deref.Run

/-!
# Executions

The code of a call is made of steps, of requests to the loader, and of pairs of
branches that need nothing from each other. What becomes of a request and of a pair
is a parameter. Here, for `Action`, the loader answers at once, and of two branches
the second begins when the first has ended. Branches that overlap while the loader
lets them wait are the other instance (`Overlapping`).
-/

namespace SchemaDeref

class Execution (m : Type → Type) where
  /-- A step, during which nothing else happens. -/
  perform {α : Type} : Action α → m α
  /-- Asks the loader for a document and waits for the answer. -/
  ask : Loader → String → m Reply
  /-- Two branches, with their results in this order. -/
  both {α β : Type} : m α → m β → m (α × β)

export Execution (perform)

instance : Execution Action where
  perform action := action
  ask := Action.request
  both first second := do
    let a ← first
    let b ← second
    return (a, b)

namespace Execution

variable {α β : Type}

@[simp] theorem perform_action (action : Action α) :
    (perform action : Action α) = action := rfl

theorem both_action (first : Action α) (second : Action β) :
    both first second = do
      let a ← first
      let b ← second
      return (a, b) := rfl

end Execution

/-- The document of a name: from the catalog, or else from the loader. -/
def Execution.load {m : Type → Type} [Monad m] [Execution m] (loader : Loader)
    (uri reference : String) : m Node := do
  match (← perform get).catalog.get? uri with
  | some document => return document
  | none =>
    let reply ← Execution.ask loader uri
    perform (Action.settle uri reference reply)

/-- The document of a name, where the loader answers at once. -/
def Action.load (loader : Loader) (uri reference : String) : Action Node :=
  Execution.load loader uri reference

theorem Execution.load_action (loader : Loader) (uri reference : String) :
    Execution.load loader uri reference = Action.load loader uri reference := rfl

end SchemaDeref
