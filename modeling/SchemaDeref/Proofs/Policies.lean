import SchemaDeref.Proofs.Comparison

/-!
# Policies for circular references

Calls that differ in their policy alone. The code asks for the policy in one place,
where it has met a circular reference, so two of them compare if what is done there
does (`Comparison.derefRoot`). With equality for the relation, policies that keep
circular references are one. With `Action.Relaxes`, a policy under which they are
failures gives what one that keeps them gives, as long as there are none.
-/

namespace SchemaDeref

/-- The same setup with another policy. -/
def Setup.following (setup : Setup) (policy : CyclePolicy) : Setup :=
  { setup with settings := { setup.settings with cyclePolicy := policy } }

/-! ## Calls under different policies -/

namespace Action

variable {α β : Type}

/-- Where the strict step succeeds, the lenient one does just the same and no key is
recorded. The lenient one keeps the keys it finds, and without any at its end the
strict one does the same. -/
structure Relaxes (strict lenient : Action α) : Prop where
  succeeds : ∀ {run a after}, strict.on run = (.ok a, after) →
    lenient.on run = (.ok a, after) ∧ after.memo.edges = run.memo.edges
  keeps : ∀ {run a after}, lenient.on run = (.ok a, after) → run.memo.edges ⊆
    after.memo.edges
  restricts : ∀ {run a after}, lenient.on run = (.ok a, after) →
    after.memo.edges = [] →
    strict.on run = (.ok a, after)

namespace Relaxes

theorem quiet {action : Action α} (h : action.Quiet) : Relaxes action action where
  succeeds {run a after} hon := by
    have hedges : (action.on run).2.memo.edges = run.memo.edges := h run
    rw [hon] at hedges
    exact ⟨hon, hedges⟩
  keeps {run a after} hon := by
    have hedges : (action.on run).2.memo.edges = run.memo.edges := h run
    rw [hon] at hedges
    exact hedges ▸ List.Subset.refl _
  restricts hon _ := hon

theorem bind {first first' : Action α} {next next' : α → Action β}
    (hfirst : Relaxes first first') (hnext : ∀ a, Relaxes (next a) (next' a)) :
    Relaxes (first >>= next) (first' >>= next') where
  succeeds hon := by
    obtain ⟨a, middle, hon, hon'⟩ := on_bind_eq_ok.mp hon
    obtain ⟨hlenient, hedges⟩ := hfirst.succeeds hon
    obtain ⟨hlenient', hedges'⟩ := (hnext a).succeeds hon'
    exact ⟨on_bind_eq_ok.mpr ⟨a, middle, hlenient, hlenient'⟩, hedges'.trans hedges⟩
  keeps hon := by
    obtain ⟨a, middle, hon, hon'⟩ := on_bind_eq_ok.mp hon
    exact List.Subset.trans (hfirst.keeps hon) ((hnext a).keeps hon')
  restricts hon hnone := by
    obtain ⟨a, middle, hon, hon'⟩ := on_bind_eq_ok.mp hon
    -- keys stay, so there was none between the two steps either
    have hmiddle : middle.memo.edges = [] :=
      List.subset_nil.mp (hnone ▸ (hnext a).keeps hon')
    exact on_bind_eq_ok.mpr ⟨a, middle, hfirst.restricts hon hmiddle,
      (hnext a).restricts hon' hnone⟩

/-- A failure at a circular reference against a key recorded there. -/
theorem circle {setup setup' : Setup}
    (hkeeps : setup.settings.cyclePolicy.keepsEdges = false)
    (hkeeps' : setup'.settings.cyclePolicy.keepsEdges = true) (scope : Scope)
    (reference : Reference) :
    Relaxes (reference.circle setup scope) (reference.circle setup' scope) where
  succeeds hon := by
    simp [Reference.on_circle, hkeeps] at hon
  keeps hon := by
    simp only [Reference.on_circle, hkeeps', if_true] at hon
    cases hon
    exact fun key hkey => Memo.mem_insertKey.mpr (.inr hkey)
  restricts {run a after} hon hnone := by
    simp only [Reference.on_circle, hkeeps', if_true] at hon
    cases hon
    have hkey : reference.key scope.base ∈ Memo.insertKey (reference.key scope.base)
        run.memo.edges :=
      Memo.mem_insertKey.mpr (.inl rfl)
    rw [show Memo.insertKey (reference.key scope.base) run.memo.edges =
      [] from hnone] at hkey
    exact absurd hkey List.not_mem_nil

end Relaxes

end Action

namespace Comparison

/-- Steps that are the same. -/
def equal : Comparison where
  rel := Eq
  quiet _ := rfl
  bind hfirst hnext := by
    rw [hfirst]
    exact bind_congr hnext

/-- Steps of which the first is stricter. -/
def relaxing : Comparison where
  rel := Action.Relaxes
  quiet := Action.Relaxes.quiet
  bind := Action.Relaxes.bind

end Comparison

/-- Where the code keeps circular references it never asks for which of the policies. -/
theorem derefRoot_lazy (setup : Setup) (schema : Node) :
    Node.derefRoot (setup.following .lazy) schema =
      Node.derefRoot (setup.following .ignore) schema := by
  have hsetups : Comparison.equal.Setups (setup.following .lazy)
      (setup.following .ignore) :=
    ⟨rfl, fun _ _ => rfl⟩
  exact Comparison.equal.derefRoot hsetups (Nat.zero_add _).symm (.none rfl) schema

theorem derefRoot_relaxes (setup : Setup) (schema : Node) :
    Action.Relaxes (Node.derefRoot (setup.following .error) schema)
      (Node.derefRoot (setup.following .ignore) schema) := by
  have hsetups : Comparison.relaxing.Setups (setup.following .error)
      (setup.following .ignore) :=
    ⟨rfl, Action.Relaxes.circle rfl rfl⟩
  exact Comparison.relaxing.derefRoot hsetups (Nat.zero_add _).symm (.none rfl) schema

/-- The edges of a report are the keys that are left. -/
theorem edges_derefRoot {setup : Setup} {schema : Node} {run after : Run}
    {report : Report}
    (h : (Node.derefRoot setup schema).on run = (.ok report, after)) :
    report.edges = after.memo.edges := by
  rw [Node.derefRoot_eq] at h
  obtain ⟨_, _, _, h⟩ := Action.on_bind_eq_ok.mp h
  obtain ⟨result, last, _, h⟩ := Action.on_bind_eq_ok.mp h
  obtain ⟨run', last', hget, h⟩ := Action.on_bind_eq_ok.mp h
  rw [Action.on_get] at hget
  cases hget
  cases h
  rfl

/-- Policies differ only where a circular reference is met. The two that keep it
come to the same in every respect, failures and what they leave behind included. And
a call under the policy that fails there succeeds with an outcome just if the call
that keeps circular references comes to the very same outcome and has kept none. -/
theorem dereference_policies (setup : Setup) (session : Session) (schema : Node) :
    dereference (setup.following .lazy) session schema =
      dereference (setup.following .ignore) session schema ∧
    ∀ (report : Report) (after : Session) (warnings : List Warning),
      dereference (setup.following .error) session schema =
        ⟨.ok report, after, warnings⟩ ↔
        dereference (setup.following .ignore) session schema =
          ⟨.ok report, after, warnings⟩ ∧
          report.edges = [] := by
  have hrelaxes := derefRoot_relaxes setup schema
  constructor
  · simp only [dereference, derefRoot_lazy]
    rfl
  · intro report after warnings
    rw [dereference_eq_iff, dereference_eq_iff]
    constructor
    · rintro ⟨memo, hon⟩
      obtain ⟨hlenient, hedges⟩ := hrelaxes.succeeds hon
      exact ⟨⟨memo, hlenient⟩, (edges_derefRoot hlenient).trans hedges⟩
    · rintro ⟨⟨memo, hon⟩, hnone⟩
      exact ⟨memo, hrelaxes.restricts hon ((edges_derefRoot hon).symm.trans hnone)⟩

end SchemaDeref
