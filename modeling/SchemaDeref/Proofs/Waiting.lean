import SchemaDeref.Deref.Waiting
import SchemaDeref.Proofs.Comparison
import SchemaDeref.Proofs.Executions

/-!
# Calls that do not wait

A call whose requests are all answered at once goes one branch after the other,
whatever the delay of other requests would be (`dereferenceWaiting_eq`). Whether it
waits can be told from the requests it makes, and just as well from those it would
make if it did not wait (`dereferenceWaiting_eq_of_atOnce`).
-/

namespace SchemaDeref

/-! ## Answers at once -/

/-- That all requests made between two moments are answered at once. -/
def Delay.AtOnce (delay : Delay) (before after : List String) : Prop :=
  ∀ asked name, before <+: asked → asked ++ [name] <+: after → delay asked name = 0

namespace Delay.AtOnce

variable {delay : Delay} {before middle after : List String}

theorem later (h : delay.AtOnce before after) (hmiddle : before <+: middle) :
    delay.AtOnce middle after :=
  fun asked name hasked => h asked name (hmiddle.trans hasked)

theorem earlier (h : delay.AtOnce before after) (hmiddle : middle <+: after) :
    delay.AtOnce before middle :=
  fun asked name hasked hafter => h asked name hasked (hafter.trans hmiddle)

/-- No request is made. -/
theorem refl (delay : Delay) (before : List String) : delay.AtOnce before before := by
  intro asked name hasked hafter
  have := hasked.length_le
  have := hafter.length_le
  simp only [List.length_append, List.length_singleton] at this
  omega

theorem none (before after : List String) :
    Delay.none.AtOnce before after := fun _ _ _ _ => rfl

/-- The names that are asked for are not among those that take their time. -/
theorem ofFunction {f : String → Nat} (before : List String) {names : List String}
    (h : ∀ name ∈ names, f name = 0) :
    (Delay.ofFunction f).AtOnce before (before ++ names) := by
  rintro asked name ⟨more, rfl⟩ hafter
  rw [List.append_assoc, List.prefix_append_right_inj] at hafter
  exact h name (hafter.subset (List.mem_append_right _ List.mem_cons_self))

end Delay.AtOnce

/-! ## What has been asked -/

namespace Poll

variable {α β : Type}

/-- The run a look leaves behind. -/
def run : Poll α → Run
  | ended _ run => run
  | waiting run _ => run

/-- That requests are only added, in this look and in every later one. -/
def Grows : List String → Poll α → Prop
  | asked, ended _ run => asked <+: run.asked
  | asked, waiting run resume =>
    asked <+: run.asked ∧ ∀ later, (resume later).Grows later.asked

theorem run_late (a : α) (looks : Nat) (run : Run) :
    (late a looks run).run = run := by
  cases looks <;> rfl

namespace Grows

variable {asked : List String} {poll : Poll α}

theorem asked_run (h : poll.Grows asked) : asked <+: poll.run.asked := by
  cases poll with
  | ended result run => exact h
  | waiting run resume => exact h.1

theorem earlier {before : List String} (h : poll.Grows asked)
    (hbefore : before <+: asked) :
    poll.Grows before := by
  cases poll with
  | ended result run => exact hbefore.trans h
  | waiting run resume => exact ⟨hbefore.trans h.1, h.2⟩

theorem self (h : poll.Grows asked) : poll.Grows poll.run.asked := by
  cases poll with
  | ended result run => exact List.prefix_refl _
  | waiting run resume => exact ⟨List.prefix_refl _, h.2⟩

theorem late (a : α) (looks : Nat) {run : Run} (h : asked <+: run.asked) :
    (late a looks run).Grows asked := by
  induction looks generalizing asked run with
  | zero => exact h
  | succ looks ih => exact ⟨h, fun later => ih (List.prefix_refl _)⟩

theorem andThen {next : α → Run → Poll β} (h : poll.Grows asked)
    (hnext : ∀ a run, (next a run).Grows run.asked) :
    (poll.andThen next).Grows asked := by
  induction poll generalizing asked with
  | ended result run =>
    cases result with
    | error error => exact h
    | ok a => exact (hnext a run).earlier h
  | waiting run resume ih => exact ⟨h.1, fun later => ih later (h.2 later)⟩

theorem both {second : Run → Poll β} (h : poll.Grows asked)
    (hsecond : ∀ run, (second run).Grows run.asked) :
    (poll.both second).Grows asked := by
  induction poll generalizing asked second with
  | ended result run =>
    cases result with
    | error error => exact h
    | ok a =>
      refine (Grows.andThen (hsecond run) fun b after => ?_).earlier h
      exact List.prefix_refl after.asked
  | waiting run resume ih =>
    have hafter := hsecond run
    simp only [Poll.both]
    split
    · rename_i heq
      rw [heq] at hafter
      exact ⟨h.1.trans hafter, fun later => (h.2 later).andThen
        fun _ last => List.prefix_refl last.asked⟩
    · rename_i heq
      rw [heq] at hafter
      exact h.1.trans hafter
    · rename_i heq
      rw [heq] at hafter
      exact ⟨h.1.trans hafter.1, fun later => ih later (h.2 later) hafter.2⟩

/-- What has been asked at a look has been asked at the end. -/
theorem finish (h : poll.Grows asked) : poll.run.asked <+: poll.finish.2.asked := by
  induction poll generalizing asked with
  | ended result run => exact List.prefix_refl _
  | waiting run resume ih =>
    have hresumed := h.2 run
    exact hresumed.asked_run.trans (ih run hresumed)

end Grows

end Poll

/-! ## Work and steps -/

namespace Overlapping

variable {delay : Delay} {α β : Type}

/-- That work ends at the first look, as the steps do. -/
def EndsAs (work : Overlapping delay α) (action : Action α) (run : Run) : Prop :=
  work run = .ended (action.on run).1 (action.on run).2

theorem EndsAs.bind {first : Overlapping delay α} {first' : Action α}
    {next : α → Overlapping delay β} {next' : α → Action β} {run : Run}
    (hfirst : first.EndsAs first' run)
    (hnext : ∀ a middle, first'.on run = (.ok a, middle) →
      (next a).EndsAs (next' a) middle) :
    EndsAs (first >>= next) (first' >>= next') run := by
  show (first run).andThen next = _
  rw [EndsAs] at hfirst
  rw [hfirst, Action.on_bind]
  cases hon : first'.on run with
  | mk outcome middle =>
    cases outcome with
    | error error => rfl
    | ok a => exact hnext a middle hon

/-- That work comes to what the steps come to, where the answers to its requests are
there at once, and just as well where those to the requests of the steps are. -/
structure Tracks (work : Overlapping delay α) (action : Action α) : Prop where
  asks : ∀ run, run.asked <+: (action.on run).2.asked
  grows : ∀ run, (work run).Grows run.asked
  ends : ∀ run, delay.AtOnce run.asked (action.on run).2.asked →
    work.EndsAs action run
  ended : ∀ run, delay.AtOnce run.asked (work run).run.asked → work.EndsAs action run

namespace Tracks

theorem step {action : Action α} (h : action.Silent) :
    Tracks (perform action : Overlapping delay α) action := by
  have hasked : ∀ run, run.asked <+: (action.on run).2.asked := by
    intro run
    have hkept : (action.on run).2.asked = run.asked := h run
    exact hkept ▸ List.prefix_refl run.asked
  exact ⟨hasked, hasked, fun _ _ => rfl, fun _ _ => rfl⟩

theorem ask (loader : Loader) (uri : String) :
    Tracks (Execution.ask loader uri : Overlapping delay Reply)
      (Action.request loader uri) := by
  -- whether the answer waits or not, the request is made
  have hends : ∀ run : Run, delay.AtOnce run.asked (run.asked ++ [uri]) →
      EndsAs (Execution.ask loader uri : Overlapping delay Reply)
        (Action.request loader uri) run := by
    intro run h
    have hnow : delay run.asked uri = 0 :=
      h _ _ (List.prefix_refl _) (List.prefix_refl _)
    show Poll.late _ (delay run.asked uri) _ = _
    rw [hnow]
    rfl
  refine ⟨fun run => List.prefix_append _ _, fun run => ?_, hends,
    fun run h => hends run ?_⟩
  · exact .late _ _ (List.prefix_append _ _)
  · have hrun := Poll.run_late (loader run.asked uri) (delay run.asked uri)
      { run with asked := run.asked ++ [uri] }
    exact (congrArg (fun last : Run => delay.AtOnce run.asked last.asked) hrun).mp h

section

variable {first : Overlapping delay α} {first' : Action α}

/-- What the first of two steps asks has been asked behind both. -/
theorem asked_bind {next' : α → Action β}
    (hnext : ∀ a run, run.asked <+: ((next' a).on run).2.asked) (run : Run) :
    (first'.on run).2.asked <+: ((first' >>= next').on run).2.asked := by
  rw [Action.on_bind]
  cases first'.on run with
  | mk outcome middle =>
    cases outcome with
    | error error => exact List.prefix_refl _
    | ok a => exact hnext a middle

theorem bind {next : α → Overlapping delay β} {next' : α → Action β}
    (hfirst : first.Tracks first') (hnext : ∀ a, (next a).Tracks (next' a)) :
    Tracks (first >>= next) (first' >>= next') where
  asks run := (hfirst.asks run).trans (asked_bind (fun a => (hnext a).asks) run)
  grows run := (hfirst.grows run).andThen fun a => (hnext a).grows
  ends run h := by
    have hfinished :=
      hfirst.ends run (h.earlier (asked_bind (fun a => (hnext a).asks) run))
    refine hfinished.bind fun a middle hon => (hnext a).ends middle ?_
    have hasks := hfirst.asks run
    rw [hon] at hasks
    rw [Action.on_bind, hon] at h
    exact h.later hasks
  ended run h := by
    have hasked :=
      ((hfirst.grows run).self.andThen fun a => (hnext a).grows).asked_run
    have hfinished := hfirst.ended run (h.earlier hasked)
    refine hfinished.bind fun a middle hon => (hnext a).ended middle ?_
    have hasks := hfirst.asks run
    have hlook : (first >>= next) run = (first run).andThen next := rfl
    rw [hlook, hfinished, hon] at h
    rw [hon] at hasks
    exact h.later hasks

/-- Two branches, the first of which does not wait, go one after the other. -/
theorem both {second : Overlapping delay β} {second' : Action β}
    (hfirst : first.Tracks first') (hsecond : second.Tracks second') :
    Tracks (Execution.both first second) (Execution.both first' second') := by
  have hpair : ∀ a : α, Tracks (do let b ← second; pure (a, b))
      (do let b ← second'; pure (a, b)) :=
    fun a => hsecond.bind fun b => step (.pure (a, b))
  have hsequence : Tracks (do let a ← first; let b ← second; pure (a, b))
      (do let a ← first'; let b ← second'; pure (a, b)) := hfirst.bind hpair
  have hboth : ∀ run, first.EndsAs first' run →
      Execution.both first second run =
        (do let a ← first; let b ← second; pure (a, b)) run := by
    intro run hends
    show (first run).both second = (first run).andThen _
    rw [hends]
    cases (first'.on run).1 <;> rfl
  refine ⟨hsequence.asks, fun run => (hfirst.grows run).both hsecond.grows,
    fun run h => ?_,
    fun run h => ?_⟩
  · have hends :=
      hfirst.ends run (h.earlier (asked_bind (fun a => (hpair a).asks) run))
    rw [EndsAs, hboth run hends]
    exact hsequence.ends run h
  · have hasked := ((hfirst.grows run).self.both hsecond.grows).asked_run
    have heq := hboth run (hfirst.ended run (h.earlier hasked))
    rw [heq] at h
    rw [EndsAs, heq]
    exact hsequence.ended run h

end

/-- Work that tracks steps is one way to execute what they execute. -/
def accord (delay : Delay) : Accord (Overlapping delay) Action where
  rel := Tracks
  pure a := step (.pure a)
  bind := bind
  given a a' := by
    intro next next' h
    rw [pure_bind a']
    exact h
  failed error next next' := by
    have hasked : ∀ run : Run, run.asked <+: run.asked := fun _ => List.prefix_refl _
    exact ⟨hasked, hasked, fun _ _ => rfl, fun _ _ => rfl⟩
  step := step
  ask := ask
  both := both

end Tracks

end Overlapping

/-! ## Calls -/

section

variable {delay : Delay} {setup : Setup} {session : Session} {schema : Node}

/-- A call is looked at until it ends. -/
theorem dereferenceWaiting_eq_finish (delay : Delay) (setup : Setup)
    (session : Session) (schema : Node) :
    dereferenceWaiting delay setup session schema =
      let (result, last) :=
        (Node.derefRootIn (Overlapping delay) setup schema
          (setup.fresh session)).finish
      ⟨result, last.toSession, last.warnings⟩ := rfl

/-- What the whole code of a call does. -/
theorem Node.tracks_derefRootIn (delay : Delay) (setup : Setup) (schema : Node) :
    Overlapping.Tracks (Node.derefRootIn (Overlapping delay) setup schema)
      (Node.derefRoot setup schema) :=
  Accord.derefRootIn setup (Overlapping.Tracks.accord delay) schema

/-- A call that ends at the first look goes one branch after the other. -/
theorem dereferenceWaiting_eq_of_endsAs
    (h : Overlapping.EndsAs (Node.derefRootIn (Overlapping delay) setup schema)
      (Node.derefRoot setup schema) (setup.fresh session)) :
    dereferenceWaiting delay setup session schema = dereference setup session
      schema := by
  rw [dereferenceWaiting_eq_finish, h, dereference_eq]
  rfl

/-- A call of which all requests are answered at once goes one branch after the
other. -/
theorem dereferenceWaiting_eq
    (h : delay.AtOnce session.asked
      (dereferenceWaiting delay setup session schema).session.asked) :
    dereferenceWaiting delay setup session schema = dereference setup session
      schema := by
  have htracks := Node.tracks_derefRootIn delay setup schema
  refine dereferenceWaiting_eq_of_endsAs (htracks.ended (setup.fresh session) ?_)
  exact h.earlier (htracks.grows (setup.fresh session)).finish

/-- So does a call of which all requests would be answered at once if it went one
branch after the other. -/
theorem dereferenceWaiting_eq_of_atOnce
    (h : delay.AtOnce session.asked
      (dereference setup session schema).session.asked) :
    dereferenceWaiting delay setup session schema = dereference setup
      session schema :=
  dereferenceWaiting_eq_of_endsAs
    ((Node.tracks_derefRootIn delay setup schema).ends (setup.fresh session) h)

/-- Without a delay calls go one branch after the other. -/
theorem dereferenceWaiting_none (setup : Setup) (session : Session) (schema : Node) :
    dereferenceWaiting .none setup session schema = dereference setup
      session schema :=
  dereferenceWaiting_eq (.none _ _)

end

end SchemaDeref
