import SchemaDeref.Deref.Basic

/-!
# Running the steps of a call

A step takes a run to an outcome and a run. Each primitive step has one equation
here, and so has each way of putting steps together, so that later modules never
open the monad.
-/

namespace SchemaDeref

namespace Action

variable {α β : Type}

/-- What a step comes to on a run, and the run it leaves behind. -/
def on (action : Action α) (run : Run) : Except DerefError α × Run :=
  action.run.run run

@[simp] theorem on_pure (a : α) (run : Run) :
    (pure a : Action α).on run = (.ok a, run) := rfl

/-- A step goes on where the one before it stopped, unless that one failed. -/
theorem on_bind (first : Action α) (next : α → Action β) (run : Run) :
    (first >>= next).on run =
      match first.on run with
      | (.ok a, after) => (next a).on after
      | (.error error, after) => (.error error, after) := by
  show (ExceptT.run (first >>= next)).run run = _
  rw [ExceptT.run_bind]
  simp only [StateT.run_bind, on]
  -- the run is kept where a step fails, too: `ExceptT` lies over the state
  cases h : (ExceptT.run first).run run with
  | mk outcome after =>
    cases outcome with
    | ok a => rfl
    | error error => rfl

/-- A sequence succeeds if its steps do, one after the other. -/
theorem on_bind_eq_ok {first : Action α} {next : α → Action β} {run after : Run}
    {b : β} :
    (first >>= next).on run = (.ok b, after) ↔
      ∃ a middle, first.on run = (.ok a, middle) ∧
        (next a).on middle = (.ok b, after) := by
  rw [on_bind]
  obtain ⟨outcome, middle⟩ := first.on run
  cases outcome with
  | error error => simp
  | ok a =>
    constructor
    · exact fun h => ⟨a, middle, rfl, h⟩
    · rintro ⟨_, _, ⟨⟩, h⟩
      exact h

theorem on_map (f : α → β) (action : Action α) (run : Run) :
    (f <$> action).on run = ((action.on run).1.map f, (action.on run).2) := by
  rw [map_eq_pure_bind, on_bind]
  split
  · rename_i h
    rw [h]
    rfl
  · rename_i h
    rw [h]
    rfl

theorem on_map_eq_ok {f : α → β} (hf : ∀ a b, f a = f b → a = b) {action : Action α}
    {run after : Run} {a : α} : (f <$> action).on run = (.ok (f a), after) ↔
      action.on run = (.ok a, after) := by
  rw [on_map]
  obtain ⟨outcome, run'⟩ := action.on run
  cases outcome with
  | error error => simp [Except.map]
  | ok b =>
    simp only [Except.map, Prod.mk.injEq, Except.ok.injEq]
    exact and_congr_left fun _ => ⟨hf b a, congrArg f⟩

theorem on_map_eq_error {f : α → β} {action : Action α} {run after : Run}
    {error : DerefError} :
    (f <$> action).on run = (.error error, after) ↔
      action.on run = (.error error, after) := by
  rw [on_map]
  obtain ⟨outcome, run'⟩ := action.on run
  cases outcome <;> simp [Except.map]

/-! ## Primitive steps -/

@[simp] theorem on_updateMemo (f : Memo → Memo) (run : Run) :
    (updateMemo f).on run = (.ok (), { run with memo := f run.memo }) := rfl

@[simp] theorem on_recallNode (node : Node) (run : Run) :
    (recallNode node).on run =
      (.ok (run.memo.recallNode node).1, { run with
        memo := (run.memo.recallNode node).2 }) := rfl

@[simp] theorem on_newObject (keywords : Keywords NodeId) (run : Run) :
    (newObject keywords).on run =
      (.ok (.object run.next keywords), { run with next := run.next + 1 }) := rfl

@[simp] theorem on_mint (document : Document) (run : Run) :
    (mint document).on run =
      (.ok (document.mint run.next).1, { run with
        next := (document.mint run.next).2 }) := rfl

@[simp] theorem on_warn (warning : Warning) (run : Run) :
    (warn warning).on run =
      (.ok (), { run with warnings := run.warnings ++ [warning] }) := rfl

@[simp] theorem on_register (node : Node) (uri : Option String) (run : Run) :
    (register node uri).on run =
      (.ok (), { run with catalog := run.catalog.register node uri }) := rfl

@[simp] theorem on_request (loader : Loader) (uri : String) (run : Run) :
    (request loader uri).on run =
      (.ok (loader run.asked uri), { run with asked := run.asked ++ [uri] }) := rfl

@[simp] theorem on_get (run : Run) : (get : Action Run).on run = (.ok run, run) := rfl

/-! ## Steps that leave a part of the run alone -/

/-- A step after which a part of the run is what it was. -/
def Keeps {γ : Type} (part : Run → γ) (action : Action α) : Prop :=
  ∀ run, part (action.on run).2 = part run

namespace Keeps

variable {γ : Type} {part : Run → γ}

theorem pure (a : α) : Keeps part (Pure.pure a : Action α) := fun _ => rfl

theorem throw (error : DerefError) :
    Keeps part (throw error : Action α) := fun _ => rfl

theorem bind {first : Action α} {next : α → Action β} (hfirst : Keeps part first)
    (hnext : ∀ a, Keeps part (next a)) : Keeps part (first >>= next) := by
  intro run
  have hon := hfirst run
  rw [on_bind]
  cases h : first.on run with
  | mk outcome after =>
    rw [h] at hon
    cases outcome with
    | error error => exact hon
    | ok a => exact (hnext a after).trans hon

theorem updateMemo {f : Memo → Memo}
    (h : ∀ run : Run, part { run with memo := f run.memo } = part run) :
    Keeps part (updateMemo f) := h

theorem warnOfSeveral (h : ∀ run warnings, part { run with warnings } = part run)
    (keywords : Keywords NodeId) (followed : ReferenceKind) :
    Keeps part (warnOfSeveral keywords followed) := by
  simp only [Action.warnOfSeveral]
  split
  · exact fun run => h run _
  · exact pure ()

/-- The end of an object makes new objects at most. -/
theorem conclude (h : ∀ run : Run, ∀ next, part { run with next } = part run)
    (id : NodeId) (keywords result : Keywords NodeId) (outcome : Outcome) :
    Keeps part (conclude id keywords result outcome) := by
  have hnew : ∀ keywords, Keeps part (newObject keywords) := fun _ run => h run _
  cases outcome with
  | kept =>
    simp only [Action.conclude, rebuild]
    split
    · exact pure _
    · exact hnew _
  | target target =>
    simp only [Action.conclude, layOver]
    split
    · exact pure _
    · split
      · exact pure _
      · exact hnew _
      · exact hnew _

end Keeps

end Action

end SchemaDeref
