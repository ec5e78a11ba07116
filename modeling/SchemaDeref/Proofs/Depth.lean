import Mathlib.Data.Finset.Card
import SchemaDeref.Proofs.Limits
import SchemaDeref.Proofs.Places
import SchemaDeref.Proofs.Tasks

/-!
# The depth

What a scope counts. A way knows the references that are in flight on it, with the
bases they were read in (`Way.inFlight`); the path of a scope is the list of their
keys and the depth is their number, and no key comes twice, as a reference whose key
is on the path is not followed (`Reaches.measures`). A call that fails does so at a
reference it has come to (`Faults`), so it fails for want of depth only where as
many different references as the limit allows are in flight (`depth_counts`).
-/

namespace SchemaDeref

/-! ## References in flight -/

/-- The base in which references are read at the end of a way. -/
def Way.base : Way → Option String
  | [] => none
  | .entered _ keywords :: rest => Keywords.baseWithin (base rest) keywords
  | .followed _ destination :: _ => destination.base

/-- The references in flight on a way, last first, each with the base it was read in. -/
def Way.inFlight : Way → List (Option String × Reference)
  | [] => []
  | .entered _ _ :: rest => inFlight rest
  | .followed reference _ :: rest => (base rest, reference) :: inFlight rest

/-- The keys of the references in flight. -/
def Way.keys (way : Way) : List String :=
  way.inFlight.map fun flight => flight.2.key flight.1

theorem Scope.depth_enter (scope : Scope) (id : NodeId) (keywords : Keywords NodeId) :
    (scope.enter id keywords).depth = scope.depth := by
  simp only [enter]
  split <;> split <;> rfl

/-- What a scope says of the way that leads to it, with so many hops left of the
limit. -/
structure Scope.Measures (limit : Nat) (way : Way) (hops : Nat) (scope : Scope) :
    Prop where
  base : scope.base = way.base
  path : scope.path = way.keys
  nodup : scope.path.Nodup
  depth : scope.depth = way.inFlight.length
  hops : scope.depth + hops = limit

variable {setup : Setup} {session : Session} {schema : Node}

theorem Reaches.measures {way : Way} {hops : Nat} {scope : Scope} {task : Task}
    {run : Run} (reaches : Reaches setup session schema way hops scope task run) :
    scope.Measures setup.settings.maxDepth way hops := by
  induction reaches with
  | start => exact ⟨rfl, rfl, List.nodup_nil, rfl, Nat.zero_add _⟩
  | @entered way hops scope id keywords run node fresh ih =>
    constructor
    · rw [scope.enter_base, ih.base, Way.base]
    · rw [scope.path_enter, ih.path]
      rfl
    · rw [scope.path_enter]
      exact ih.nodup
    · rw [scope.depth_enter, ih.depth, Way.inFlight]
    · rw [scope.depth_enter]
      exact ih.hops
  | applied _ _ ih | first _ ih | next _ _ ih | referring _ _ ih => exact ih
  | @followed way hops scope reference run destination after referring fresh
    straight arrived ih =>
    constructor
    · rfl
    · show reference.key scope.base :: scope.path = _
      rw [Way.keys, Way.inFlight, List.map_cons, ← ih.base, ih.path]
      rfl
    · exact List.nodup_cons.mpr ⟨Scope.key_not_mem_path straight, ih.nodup⟩
    · show scope.depth + 1 = _
      rw [ih.depth, Way.inFlight, List.length_cons]
    · show scope.depth + 1 + hops = _
      have hhops := ih.hops
      omega

/-- Right behind a reference the code comes to a node. -/
theorem Reaches.exists_outer {way : Way} {hops : Nat} {scope : Scope} {task : Task}
    {run : Run} (reaches : Reaches setup session schema way hops scope task run) :
    ∀ reference destination rest, way = .followed reference destination :: rest →
      (∃ node, task = .node node) ∧ ∃ outer before,
        Reaches setup session schema rest (hops + 1) outer (.reference reference)
          before ∧
          reference.key outer.base ∉ outer.path ∧
          scope = outer.descend (reference.key outer.base) destination.root
            destination.base := by
  induction reaches with
  | start | entered =>
    intro reference destination rest hway
    cases hway
  | applied _ _ ih | first _ ih | next _ _ ih | referring _ _ ih =>
    -- what an object holds is reached inside it, and then it is the object that was
    -- entered last
    intro reference destination rest hway
    obtain ⟨⟨node, htask⟩, _⟩ := ih reference destination rest hway
    cases htask
  | followed referring fresh straight arrived ih =>
    intro reference destination rest hway
    cases hway
    exact ⟨⟨_, rfl⟩, _, _, referring, Scope.key_not_mem_path straight, rfl⟩

/-! ## Where calls fail -/

/-- What a call fails with at a reference that it has come to: the reference is
circular, no hop is left for it, or it is lost on the way to its destination. -/
inductive Faults (setup : Setup) (session : Session) (schema : Node) :
    DerefError → Prop
  | circular {way hops scope reference run}
    (reached : Reaches setup session schema way hops scope (.reference reference) run)
    (circles : scope.view.circles reference = true) :
    Faults setup session schema (.circular reference.target)
  | tooDeep {way scope reference run}
    (reached : Reaches setup session schema way 0 scope (.reference reference) run)
    (straight : scope.onPath (reference.key scope.base) = false) :
    Faults setup session schema (.tooDeep setup.settings.maxDepth reference.target)
  | lost {way hops scope reference run error after}
    (follows : Follows setup session schema way hops scope reference run)
    (route : (reference.destination setup scope).on run = (.error error, after)) :
    Faults setup session schema error

theorem Task.faults (hops : Nat) (task : Task) :
    ∀ way scope run error after, Reaches setup session schema way hops
      scope task run →
      (task.action setup hops scope).on run = (.error error, after) →
      Faults setup session schema error := by
  induction hops, task using Task.induction with
  | bool hops value =>
    intro way scope run error after reached h
    cases Task.goes h
  | object hops id keywords ihlink ihmembers =>
    intro way scope run error after node h
    cases Task.goes h with
    | unlinked fresh link => exact ihlink _ _ _ _ _ (node.entered fresh) link
    | unfinished fresh link members =>
      have followed := (Action.on_map_eq_ok Answer.outcome_inj).mp link
      exact ihmembers _ _ _ _ _ ((node.entered fresh).applied followed) members
  | nil hops =>
    intro way scope run error after reached h
    cases Task.goes h
  | cons hops node rest ihhead ihtail =>
    intro way scope run error after nodes h
    cases Task.goes h with
    | headFailed head => exact ihhead _ _ _ _ _ nodes.first head
    | tailFailed head tail =>
      have dereferenced := (Action.on_map_eq_ok Answer.node_inj).mp head
      exact ihtail _ _ _ _ _ (nodes.next dereferenced) tail
  | link hops keywords ih =>
    intro way scope run error after link h
    cases Task.goes h with
    | referring some follow => exact ih _ _ _ _ _ _ (link.referring some) follow
  | reference hops reference ih =>
    intro way scope run error after reached h
    cases Task.goes h with
    | circular fresh circles => exact .circular reached circles
    | tooDeep fresh straight => exact .tooDeep reached straight
    | lost fresh straight route => exact .lost ⟨reached, fresh, straight⟩ route
    | unexpanded fresh straight route target =>
      exact ih _ _ rfl _ _ _ _ _ (reached.followed fresh straight route) target

/-- A call that fails does so at a reference. -/
theorem dereference_faults {error : DerefError}
    (h : (dereference setup session schema).result = .error error) :
    Faults setup session schema error := by
  cases hon :
    (Node.deref setup setup.settings.maxDepth schema (.start schema none)).on
    (setup.begin session schema).toRun with
  | mk outcome after =>
    rw [dereference_eq_of_on hon] at h
    cases outcome with
    | ok node => cases h
    | error fault =>
      cases h
      exact Task.faults _ (.node schema) _ _ _ _ _ .start
        (Action.on_map_of Answer.node hon)

/-! ## Errors of following -/

/-- An error that does not depend on what a reference leads to: it is circular, or
no hop is left. -/
def DerefError.IsOfFollowing : DerefError → Prop
  | .circular _ | .tooDeep _ _ => True
  | _ => False

theorem Schema.not_isOfFollowing_of_follow {ι : Type} {s : Schema ι}
    {pointer : String} {error : DerefError} (h : s.follow pointer = .error error) :
    ¬ error.IsOfFollowing := by
  rcases Schema.fault_of_follow h with ⟨token, rfl⟩ | ⟨reason, rfl⟩ <;> exact id

theorem Node.not_isOfFollowing_of_locate {document : Node} {fragment : Option String}
    {error : DerefError} (h : document.locate fragment = .error error) :
    ¬ error.IsOfFollowing := by
  simp only [Node.locate] at h
  split at h
  · cases h
  · split at h
    · cases h
    · exact Schema.not_isOfFollowing_of_follow h
    · split at h
      · cases h
      · exact Schema.not_isOfFollowing_of_follow h

theorem Reference.not_isOfFollowing_of_dynamicPlace? {scope : Scope}
    {text fragment : String} {error : DerefError}
    (h : dynamicPlace? scope text fragment = .error error) :
    ¬ error.IsOfFollowing := by
  have hfollow : ∀ (s : Node) (pointer : String),
      (s.follow pointer).map some = .error error → ¬ error.IsOfFollowing := by
    intro s pointer h
    cases hplace : s.follow pointer with
    | ok landing =>
      rw [hplace] at h
      cases h
    | error fault =>
      rw [hplace] at h
      cases h
      exact Schema.not_isOfFollowing_of_follow hplace
  simp only [dynamicPlace?] at h
  split at h
  · exact hfollow _ _ h
  · split at h
    · split at h
      · cases h
      · exact hfollow _ _ h
    · split at h
      · exact hfollow _ _ h
      · cases h
        exact id

theorem Reference.not_isOfFollowing_of_landing {scope : Scope} {reference : Reference}
    {error : DerefError} (h : reference.landing scope = .error error) :
    ¬ error.IsOfFollowing := by
  rw [landing] at h
  split at h
  · exact Node.not_isOfFollowing_of_locate h
  · exact Node.not_isOfFollowing_of_locate h
  · split at h
    · cases h
    · cases h
    · rename_i fault hfault
      cases h
      exact not_isOfFollowing_of_dynamicPlace? hfault

theorem Action.eq_error_of_arrive {landing : Except DerefError (Landing NodeId)}
    {run after : Run} {error : DerefError}
    (h : (arrive landing).on run = (.error error, after)) :
    landing = .error error := by
  cases landing with
  | ok landing => cases landing <;> cases h
  | error fault =>
    cases h
    rfl

theorem Action.refused_of_load {loader : Loader} {name reference : String}
    {run after : Run} {error : DerefError} (herror : error.IsOfFollowing)
    (h : (load loader name reference).on run = (.error error, after)) :
    loader run.asked name = .refused error := by
  rw [on_load] at h
  split at h
  · cases h
  · dsimp only at h
    split at h
    · cases h
    · cases h
      exact herror.elim
    · cases h
      exact herror.elim
    · rename_i refused hreply
      cases h
      exact hreply

/-- On the way to a destination nobody but the loader fails with an error of
following. -/
theorem Reference.exists_refused {scope : Scope} {reference : Reference}
    {run after : Run} {error : DerefError} (herror : error.IsOfFollowing)
    (h : (reference.destination setup scope).on run = (.error error, after)) :
    ∃ uri, reference.parts.uri = some uri ∧
      setup.loader run.asked (Uri.joinName scope.base uri) = .refused error := by
  rw [destination] at h
  split at h
  · rw [← map_eq_pure_bind, Action.on_map_eq_error] at h
    exact absurd herror (not_isOfFollowing_of_landing (Action.eq_error_of_arrive h))
  · rename_i uri huri
    dsimp only at h
    cases hload :
      (Action.load setup.loader (Uri.joinName scope.base uri) reference.target).on
        run with
    | mk loaded middle =>
      rw [Action.on_bind, hload] at h
      cases loaded with
      | error fault =>
        cases h
        exact ⟨uri, huri, Action.refused_of_load herror hload⟩
      | ok document =>
        dsimp only at h
        rw [← map_eq_pure_bind, Action.on_map_eq_error] at h
        exact absurd herror
          (Node.not_isOfFollowing_of_locate (Action.eq_error_of_arrive h))

/-- Wherever a call comes to a node, the depth is the number of different keys on
its path, which are the keys of the references in flight, and it is within the
limit. Behind every reference that is followed there is one key more, and it was not
there before. So a call that fails for want of depth, unless that is what its loader
fails with, has come to a reference while just as many others as the limit allows
are in flight, with pairwise different keys. -/
theorem depth_counts (setup : Setup) (session : Session) (schema : Node) :
    (∀ way hops scope node run,
      Reaches setup session schema way hops scope (.node node) run →
      scope.depth = scope.path.toFinset.card ∧ scope.depth ≤ setup.settings.maxDepth ∧
        scope.path = way.keys) ∧
    (∀ way hops scope reference destination node run,
      Reaches setup session schema (.followed reference destination :: way) hops
        scope (.node node) run →
      ∃ outer before, Reaches setup session schema way (hops + 1) outer
        (.reference reference) before ∧
        reference.key outer.base ∉ outer.path ∧
          scope.path = reference.key outer.base :: outer.path ∧
        scope.depth = outer.depth + 1) ∧
    ∀ limit target, (dereference setup session schema).result =
      .error (.tooDeep limit target) →
      (∃ way name asked, LooksUp setup session schema way name ∧
        setup.loader asked name = .refused (.tooDeep limit target)) ∨
      limit = setup.settings.maxDepth ∧ ∃ way scope reference run,
        Reaches setup session schema way 0 scope (.reference reference) run ∧
          reference.target = target ∧ reference.key scope.base ∉ way.keys ∧
            way.keys.Nodup ∧
          way.inFlight.length = setup.settings.maxDepth := by
  refine ⟨?_, ?_, ?_⟩
  · intro way hops scope node run reaches
    have hmeasures := reaches.measures
    have hlength : scope.path.length = way.inFlight.length := by
      rw [hmeasures.path, Way.keys, List.length_map]
    have hhops := hmeasures.hops
    refine ⟨?_, by omega, hmeasures.path⟩
    rw [List.toFinset_card_of_nodup hmeasures.nodup, hlength, hmeasures.depth]
  · intro way hops scope reference destination node run reaches
    obtain ⟨_, outer, before, hreaches, hnew, hscope⟩ :=
      reaches.exists_outer _ _ _ rfl
    refine ⟨outer, before, hreaches, hnew, ?_, ?_⟩
    · rw [hscope]
      rfl
    · rw [hscope]
      rfl
  · intro limit target h
    generalize herror : DerefError.tooDeep limit target = error at h
    cases dereference_faults h with
    | circular reached circles => cases herror
    | @tooDeep way scope reference run reached straight =>
      cases herror
      have hmeasures := reached.measures
      refine .inr ⟨rfl, way, scope, reference, run, reached, rfl, ?_, ?_, ?_⟩
      · rw [← hmeasures.path]
        exact fun hmem => absurd (List.contains_iff_mem.mpr hmem)
          (Bool.eq_false_iff.mp straight)
      · rw [← hmeasures.path]
        exact hmeasures.nodup
      · rw [← hmeasures.depth]
        exact hmeasures.hops
    | lost follows route =>
      subst herror
      have hfollowing : (DerefError.tooDeep limit target).IsOfFollowing := trivial
      obtain ⟨uri, huri, hrefused⟩ := Reference.exists_refused hfollowing route
      exact .inl ⟨_, _, _, ⟨_, _, _, _, uri, follows, huri, rfl⟩, hrefused⟩

/-- Under a limit of one, the second of two references inside one another is one too
many. -/
theorem depth_counts_chained :
    (chained.limitedCall 1).result = .error (.tooDeep 1 "#/$defs/text") ∧
    ∃ way scope reference run, Reaches (Setup.limited ⟨{}, .none⟩ 1)
      (Session.empty.mint chained).2
        (Session.empty.mint chained).1 way 0 scope (.reference reference) run ∧
      reference.target = "#/$defs/text" ∧ way.inFlight.length = 1 := by
  have failed : (chained.limitedCall 1).result =
      .error (.tooDeep 1 "#/$defs/text") := rfl
  refine ⟨failed, ?_⟩
  rcases (depth_counts (Setup.limited ⟨{}, .none⟩ 1) (Session.empty.mint chained).2
    (Session.empty.mint chained).1).2.2 1 "#/$defs/text" failed with
    ⟨way, name, asked, looks, refused⟩ | ⟨_, way, scope, reference, run, reached,
      target, _, _, length⟩
  · cases refused
  · exact ⟨way, scope, reference, run, reached, target, length⟩

end SchemaDeref
