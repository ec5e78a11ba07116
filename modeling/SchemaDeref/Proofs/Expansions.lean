import Mathlib.Data.Set.Card
import SchemaDeref.Proofs.Tasks
import SchemaDeref.Proofs.Waiting

/-!
# Expansions

Every reference that a call expands, in the order it does (`Task.expansions`). With
remembered results no `$ref` is expanded twice from one base (`expands_once`): the
first time its result is remembered where the expansion ends, and until then its key
is that of a reference in flight, so that whoever meets it again takes the result or
finds it circular. Both have to be carried along (`Expanding`).

This is so in a call that does not wait (`expands_once_atOnce`). While a branch
waits for a document, its result is not there yet and its key is in flight on no
other branch (`expands_twice_referredTwice`).
-/

namespace SchemaDeref

/-! ## The expansions of a task -/

/-- A reference where it is expanded: on the way that leads to it, with so many hops
left behind it. -/
structure Expansion where
  way : Way
  hops : Nat
  scope : Scope
  reference : Reference
  run : Run

/-- The base and the text by which the result of a `$ref` is remembered. -/
def Expansion.pair (expansion : Expansion) : String × String :=
  (expansion.scope.base.getD "", expansion.reference.target)

/-- What is listed after a step; nothing if the step fails. -/
def Action.listing {α β : Type} (action : Action α) (run : Run)
    (next : α → Run → List β) : List β :=
  match action.on run with
  | (.ok a, after) => next a after
  | (.error _, _) => []

/-- What is left of a task, as long as the hops stay the same. -/
def Task.weight : Task → Nat
  | .reference _ => 0
  | .link _ => 1
  | .node n => 2 * n.count
  | .nodes ns => 2 * countAll ns + 1

/-- The references that are expanded for a task, in order. -/
def Task.expansions (setup : Setup) (way : Way) (hops : Nat) (scope : Scope)
    (task : Task) (run : Run) :
    List Expansion :=
  match task with
  | .node (.bool _) => []
  | .node (.object id keywords) =>
    if (run.memo.recallNode (.object id keywords)).1.isSome then []
    else
      let inside := .entered id keywords :: way
      let inner := scope.enter id keywords
      (Task.link keywords).expansions setup inside hops inner run ++
        ((Task.link keywords).action setup hops inner).listing run fun _ linked =>
          (Task.nodes (Keywords.applied keywords)).expansions setup inside hops
            inner linked
  | .nodes [] => []
  | .nodes (n :: rest) =>
    (Task.node n).expansions setup way hops scope run ++
      ((Task.node n).action setup hops scope).listing run fun _ middle =>
        (Task.nodes rest).expansions setup way hops scope middle
  | .link keywords =>
    match Keywords.reference? keywords with
    | none => []
    | some r =>
      (Task.reference r.effective).expansions setup way hops scope
        ((Action.warnOfSeveral keywords r.kind).on run).2
  | .reference r =>
    match hops with
    | 0 => []
    | less + 1 =>
      if (run.memo.recallTarget r scope.base).1.isSome || scope.view.circles r then []
      else
        (r.destination setup scope).listing run fun destination arrived =>
          ⟨way, less, scope, r, run⟩ ::
            (Task.node destination.place).expansions setup
              (.followed r destination :: way) less
              (scope.descend (r.key scope.base) destination.root destination.base)
              { arrived with memo := arrived.memo.recordExpansion }
termination_by (hops, task.weight)
decreasing_by
  all_goals simp only [Task.weight, Schema.count, countAll]
  · exact .right _ (by omega)
  · have := Keywords.countAll_applied_le keywords
    exact .right _ (by omega)
  · exact .right _ (by omega)
  · have := n.count_pos
    exact .right _ (by omega)
  · exact .right _ (by omega)
  · exact .left _ _ (Nat.lt_succ_self less)

namespace Task

variable {setup : Setup} {way : Way} {hops : Nat} {scope : Scope} {run : Run}

theorem expansions_fresh {id : NodeId} {keywords : Keywords NodeId}
    (fresh : (run.memo.recallNode (.object id keywords)).1 = none) :
    (Task.node (.object id keywords)).expansions setup way hops scope run =
      (Task.link keywords).expansions setup (.entered id keywords :: way) hops
        (scope.enter id keywords)
          run ++
        ((Task.link keywords).action setup hops (scope.enter id keywords)).listing
          run fun _ linked =>
          (Task.nodes (Keywords.applied keywords)).expansions setup
            (.entered id keywords :: way) hops (scope.enter id keywords) linked := by
  rw [expansions, fresh, if_neg (by simp)]

theorem expansions_cons (n : Node) (rest : List Node) :
    (Task.nodes (n :: rest)).expansions setup way hops scope run =
      (Task.node n).expansions setup way hops scope run ++
        ((Task.node n).action setup hops scope).listing run fun _ middle =>
          (Task.nodes rest).expansions setup way hops scope middle := by
  rw [expansions]

theorem expansions_referring {keywords : Keywords NodeId} {r : Reference}
    (some : Keywords.reference? keywords = some r) :
    (Task.link keywords).expansions setup way hops scope run =
      (Task.reference r.effective).expansions setup way hops scope
        ((Action.warnOfSeveral keywords r.kind).on run).2 := by
  rw [expansions, some]

theorem expansions_idle {r : Reference}
    (h : (run.memo.recallTarget r scope.base).1.isSome = true ∨
      scope.view.circles r = true) :
    (Task.reference r).expansions setup way hops scope run = [] := by
  cases hops with
  | zero => rw [expansions]
  | succ less => rw [expansions, if_pos (Bool.or_eq_true_iff.mpr h)]

theorem expansions_followed {r : Reference}
    (fresh : (run.memo.recallTarget r scope.base).1 = none)
    (straight : scope.view.circles r = false) :
    (Task.reference r).expansions setup way (hops + 1) scope run =
      (r.destination setup scope).listing run fun destination arrived =>
        ⟨way, hops, scope, r, run⟩ ::
          (Task.node destination.place).expansions setup
            (.followed r destination :: way) hops
            (scope.descend (r.key scope.base) destination.root destination.base)
            { arrived with memo := arrived.memo.recordExpansion } := by
  rw [expansions, fresh, straight, if_neg (by simp)]

end Task

/-! ## All expansions of a call -/

section

variable (setup : Setup) (session : Session) (schema : Node)

/-- A reference that is expanded in the call: it goes to its destination, and it has
one. -/
structure Expands (expansion : Expansion) : Prop where
  follows : Follows setup session schema expansion.way expansion.hops expansion.scope
    expansion.reference expansion.run
  arrives : ∃ destination arrived,
    (expansion.reference.destination setup expansion.scope).on expansion.run =
      (.ok destination, arrived)

/-- The base and the text of a `$ref` that the call comes to. -/
def IsMet (pair : String × String) : Prop :=
  ∃ way hops scope target run,
    Reaches setup session schema way hops scope (.reference ⟨.static, target⟩) run ∧
      pair = (scope.base.getD "", target)

/-- The references that are expanded in a call, in order. -/
def callExpansions : List Expansion :=
  (Task.node schema).expansions setup [] setup.settings.maxDepth (.start schema none)
    (setup.begin session schema).toRun

end

variable {setup : Setup} {session : Session} {schema : Node}

theorem Action.listing_ok {α β : Type} {action : Action α} {run after : Run} {a : α}
    (h : action.on run = (.ok a, after)) (next : α → Run → List β) :
    action.listing run next = next a after := by
  rw [listing, h]

theorem Action.listing_error {α β : Type} {action : Action α} {run after : Run}
    {error : DerefError} (h : action.on run = (.error error, after))
    (next : α → Run → List β) :
    action.listing run next = [] := by
  rw [listing, h]

theorem Action.mem_listing {α β : Type} {action : Action α} {run : Run}
    {next : α → Run → List β} {b : β} : b ∈ action.listing run next ↔
      ∃ a after, action.on run = (.ok a, after) ∧ b ∈ next a after := by
  rw [listing]
  split
  · rename_i a after heq
    constructor
    · exact fun h => ⟨a, after, heq, h⟩
    · rintro ⟨a', after', hon, h⟩
      cases heq.symm.trans hon
      exact h
  · rename_i error after heq
    constructor
    · exact fun h => absurd h List.not_mem_nil
    · rintro ⟨a', after', hon, _⟩
      cases heq.symm.trans hon

/-- What is listed for a task that is reached is expanded in the call. -/
theorem Task.expands (hops : Nat) (task : Task) :
    ∀ way scope run, Reaches setup session schema way hops scope task run →
      ∀ e ∈ task.expansions setup way hops scope run, Expands setup session
        schema e := by
  induction hops, task using Task.induction with
  | bool hops value =>
    intro way scope run _ e he
    rw [Task.expansions] at he
    exact absurd he List.not_mem_nil
  | object hops id keywords ihlink ihmembers =>
    intro way scope run node e he
    rw [Task.expansions] at he
    split at he
    · exact absurd he List.not_mem_nil
    · rename_i fresh
      have link := node.entered (Option.not_isSome_iff_eq_none.mp fresh)
      rcases List.mem_append.mp he with he | he
      · exact ihlink _ _ _ link e he
      · obtain ⟨answer, linked, hlink, he⟩ := Action.mem_listing.mp he
        obtain ⟨outcome, followed, _⟩ := Action.exists_of_on_map hlink
        exact ihmembers _ _ _ (link.applied followed) e he
  | nil hops =>
    intro way scope run _ e he
    rw [Task.expansions] at he
    exact absurd he List.not_mem_nil
  | cons hops node rest ihhead ihtail =>
    intro way scope run nodes e he
    rw [Task.expansions] at he
    rcases List.mem_append.mp he with he | he
    · exact ihhead _ _ _ nodes.first e he
    · obtain ⟨answer, middle, hhead, he⟩ := Action.mem_listing.mp he
      obtain ⟨result, dereferenced, _⟩ := Action.exists_of_on_map hhead
      exact ihtail _ _ _ (nodes.next dereferenced) e he
  | link hops keywords ih =>
    intro way scope run link e he
    rw [Task.expansions] at he
    split at he
    · exact absurd he List.not_mem_nil
    · rename_i reference some
      exact ih _ _ _ _ (link.referring some) e he
  | reference hops reference ih =>
    intro way scope run reached e he
    cases hops with
    | zero =>
      rw [Task.expansions] at he
      exact absurd he List.not_mem_nil
    | succ less =>
      rw [Task.expansions] at he
      split at he
      · exact absurd he List.not_mem_nil
      · rename_i free
        rw [Bool.or_eq_true, not_or] at free
        have fresh := Option.not_isSome_iff_eq_none.mp free.1
        have straight := Bool.eq_false_of_not_eq_true free.2
        obtain ⟨destination, arrived, route, he⟩ := Action.mem_listing.mp he
        rcases List.mem_cons.mp he with rfl | he
        · exact ⟨⟨reached, fresh, straight⟩, destination, arrived, route⟩
        · exact ih less _ rfl _ _ _ (reached.followed fresh straight route) e he

/-- What is expanded from a task on: for a link, also for what its object applies. -/
def Task.onward (setup : Setup) (way : Way) (hops : Nat) (scope : Scope)
    (task : Task) (run : Run) :
    List Expansion :=
  match task with
  | .node n => (Task.node n).expansions setup way hops scope run
  | .nodes ns => (Task.nodes ns).expansions setup way hops scope run
  | .link keywords =>
    (Task.link keywords).expansions setup way hops scope run ++
      ((Task.link keywords).action setup hops scope).listing run fun _ linked =>
        (Task.nodes (Keywords.applied keywords)).expansions setup way hops
          scope linked
  | .reference r => (Task.reference r).expansions setup way hops scope run

/-- What is expanded from a task on that is reached is among all that the call
expands. -/
theorem Reaches.onward_subset {way : Way} {hops : Nat} {scope : Scope} {task : Task}
    {run : Run} (reaches : Reaches setup session schema way hops scope task run) :
    task.onward setup way hops scope run ⊆ callExpansions setup session schema := by
  induction reaches with
  | start => exact List.Subset.refl _
  | entered node fresh ih =>
    rw [Task.onward, Task.expansions_fresh fresh] at ih
    exact ih
  | @applied way hops scope keywords run outcome after link followed ih =>
    intro e he
    refine ih (List.mem_append_right _
      (Action.mem_listing.mpr ⟨.outcome outcome, after, ?_, he⟩))
    exact Action.on_map_of Answer.outcome followed
  | first nodes ih =>
    rw [Task.onward, Task.expansions_cons] at ih
    exact List.Subset.trans (List.subset_append_left _ _) ih
  | @next way hops scope node rest run result after nodes dereferenced ih =>
    rw [Task.onward, Task.expansions_cons] at ih
    intro e he
    refine ih (List.mem_append_right _
      (Action.mem_listing.mpr ⟨.node result, after, ?_, he⟩))
    exact Action.on_map_of Answer.node dereferenced
  | referring link some ih =>
    rw [Task.onward, Task.expansions_referring some] at ih
    exact List.Subset.trans (List.subset_append_left _ _) ih
  | @followed way hops scope reference run destination after referring fresh
    straight arrived ih =>
    rw [Task.onward, Task.expansions_followed fresh straight] at ih
    intro e he
    exact ih (Action.mem_listing.mpr ⟨destination, after, arrived,
      List.mem_cons_of_mem _ he⟩)

/-- A reference is expanded in the call if and only if it is listed. -/
theorem expands_iff_mem {e : Expansion} :
    Expands setup session schema e ↔ e ∈ callExpansions setup session schema := by
  constructor
  · intro h
    have hlisted := h.follows.reached.onward_subset
    rw [Task.onward, Task.expansions_followed h.follows.fresh h.follows.straight]
      at hlisted
    obtain ⟨destination, arrived, route⟩ := h.arrives
    exact hlisted
      (Action.mem_listing.mpr ⟨destination, arrived, route, List.mem_cons_self⟩)
  · exact Task.expands _ _ _ _ _ .start e

/-! ## What is remembered of them -/

namespace Memo

/-- A result is remembered for a `$ref` of this base and text. -/
def Remembers (memo : Memo) (pair : String × String) : Prop :=
  (memo.references.lookup pair).isSome

/-- The memo may say more of nodes and of circles; it says the same of references
and expansions. -/
structure Keeps (memo after : Memo) : Prop where
  enabled : after.enabled = memo.enabled
  references : after.references = memo.references
  expansions : after.stats.expansions = memo.stats.expansions

variable (memo : Memo)

theorem expansions_recordExpansion :
    memo.recordExpansion.stats.expansions = memo.stats.expansions + 1 := rfl

theorem keeps_recallNode (node : Node) : memo.Keeps (memo.recallNode node).2 := by
  simp only [recallNode]
  split
  · split <;> exact ⟨rfl, rfl, rfl⟩
  · exact ⟨rfl, rfl, rfl⟩

theorem keeps_recallTarget (reference : Reference) (base : Option String) :
    memo.Keeps (memo.recallTarget reference base).2 := by
  simp only [recallTarget, recallReference]
  split
  · split
    · split <;> exact ⟨rfl, rfl, rfl⟩
    · exact ⟨rfl, rfl, rfl⟩
  · exact ⟨rfl, rfl, rfl⟩

theorem keeps_rememberNode (node result : Node) :
    memo.Keeps (memo.rememberNode node result) := by
  obtain ⟨nodes, h⟩ := memo.exists_rememberNode node result
  rw [h]
  exact ⟨rfl, rfl, rfl⟩

variable {memo} {reference : Reference} {base : Option String}

theorem not_remembers_of_fresh (henabled : memo.enabled = true)
    (hstatic : reference.kind = .static)
    (fresh : (memo.recallTarget reference base).1 = none) :
    ¬ memo.Remembers (base.getD "", reference.target) := by
  intro h
  obtain ⟨result, hlookup⟩ := Option.isSome_iff_exists.mp h
  rw [recallTarget, if_pos hstatic, recallReference, if_pos henabled, hlookup]
    at fresh
  cases fresh

theorem remembers_rememberTarget (henabled : memo.enabled = true)
    (hstatic : reference.kind = .static) (result : Node) :
    (memo.rememberTarget reference base result).Remembers
      (base.getD "", reference.target) := by
  rw [rememberTarget, if_pos hstatic, rememberReference, if_pos henabled, Remembers,
    List.lookup_cons_self]
  rfl

theorem Remembers.rememberTarget {pair : String × String} (h : memo.Remembers pair)
    (reference : Reference) (base : Option String) (result : Node) :
    (memo.rememberTarget reference base result).Remembers pair := by
  simp only [Memo.rememberTarget, rememberReference]
  split
  · split
    · rw [Remembers, List.lookup_cons]
      split
      · rfl
      · exact h
    · exact h
  · exact h

end Memo

/-- The `$ref`s among expansions, by base and text. -/
def staticPairs (expansions : List Expansion) : List (String × String) :=
  (expansions.filter fun e => e.reference.kind = .static).map Expansion.pair

theorem staticPairs_append (first second : List Expansion) :
    staticPairs (first ++ second) = staticPairs first ++ staticPairs second := by
  rw [staticPairs, List.filter_append, List.map_append]
  rfl

theorem staticPairs_cons (e : Expansion) (rest : List Expansion) :
    staticPairs (e :: rest) =
      (if e.reference.kind = .static then [e.pair] else []) ++ staticPairs rest := by
  rw [staticPairs, List.filter_cons]
  by_cases h : e.reference.kind = .static
  · simp [h, staticPairs]
  · simp [h, staticPairs]

/-- The key by which a `$ref` is in flight. -/
def staticKey (pair : String × String) : String :=
  (⟨.static, pair.2⟩ : Reference).key (some pair.1)

theorem Reference.key_eq_staticKey {reference : Reference}
    (h : reference.kind = .static) (base : Option String) :
    reference.key base = staticKey (base.getD "", reference.target) := by
  rw [key, h]
  rfl

/-- `Expanding path memo expansions result after`: from one memo to the other, both
of a call that remembers results, just these references were expanded, while those
of the path were in flight. No `$ref` of them was remembered or in flight, and none
is expanded twice. If the steps between the memos succeed, all of them are
remembered. -/
structure Expanding (path : List String) (memo : Memo) (expansions : List Expansion)
    (result : Except DerefError Answer) (after : Memo) : Prop where
  enabled : after.enabled = true
  count : after.stats.expansions = memo.stats.expansions + expansions.length
  numbered : expansions.map (·.run.memo.stats.expansions) =
    List.range' memo.stats.expansions expansions.length
  remains : ∀ pair, memo.Remembers pair → after.Remembers pair
  fresh : ∀ pair ∈ staticPairs expansions, ¬ memo.Remembers pair
  straight : ∀ pair ∈ staticPairs expansions, staticKey pair ∉ path
  distinct : (staticPairs expansions).Nodup
  remembered : ∀ answer, result = .ok answer → ∀ pair ∈ staticPairs expansions,
    after.Remembers pair

namespace Expanding

variable {path : List String} {memo middle after : Memo}
  {first second : List Expansion} {result : Except DerefError Answer}
  {answer : Answer}

/-- Steps that expand no reference. -/
theorem nil (henabled : memo.enabled = true) (h : memo.Keeps after) :
    Expanding path memo [] result after where
  enabled := h.enabled.trans henabled
  count := h.expansions
  numbered := rfl
  remains pair hpair := by
    rw [Memo.Remembers, h.references]
    exact hpair
  fresh := by simp [staticPairs]
  straight := by simp [staticPairs]
  distinct := List.nodup_nil
  remembered := by simp [staticPairs]

theorem refl (henabled : memo.enabled = true) : Expanding path memo [] result memo :=
  .nil henabled ⟨rfl, rfl, rfl⟩

/-- Some steps and then others. What the first expanded is remembered, so the others
do not expand it again. -/
theorem append (hfirst : Expanding path memo first (.ok answer) middle)
    (hsecond : Expanding path middle second result after) :
    Expanding path memo (first ++ second) result after where
  enabled := hsecond.enabled
  count := by
    rw [hsecond.count, hfirst.count, List.length_append]
    omega
  numbered := by
    rw [List.map_append, hfirst.numbered, hsecond.numbered, hfirst.count,
      List.length_append, List.range'_append_1]
  remains pair hpair := hsecond.remains pair (hfirst.remains pair hpair)
  fresh pair hpair := by
    rw [staticPairs_append, List.mem_append] at hpair
    rcases hpair with hpair | hpair
    · exact hfirst.fresh pair hpair
    · exact fun hold => hsecond.fresh pair hpair (hfirst.remains pair hold)
  straight pair hpair := by
    rw [staticPairs_append, List.mem_append] at hpair
    exact hpair.elim (hfirst.straight pair) (hsecond.straight pair)
  distinct := by
    rw [staticPairs_append]
    refine hfirst.distinct.append hsecond.distinct ?_
    intro pair hpair hpair'
    exact hsecond.fresh pair hpair' (hfirst.remembered answer rfl pair hpair)
  remembered answer' hok pair hpair := by
    rw [staticPairs_append, List.mem_append] at hpair
    rcases hpair with hpair | hpair
    · exact hsecond.remains pair (hfirst.remembered answer rfl pair hpair)
    · exact hsecond.remembered answer' hok pair hpair

/-- Some steps and then others that expand no reference. -/
theorem keep (h : Expanding path memo first (.ok answer) middle)
    (hkeeps : middle.Keeps after) :
    Expanding path memo first result after := by
  have hnil : Expanding path middle [] result after := .nil h.enabled hkeeps
  have happend := h.append hnil
  rwa [List.append_nil] at happend

/-- The expansion of a reference. While its target is dereferenced it is in flight,
so it is not expanded once more on the way; afterwards its result is remembered, if
it is a `$ref`. -/
theorem cons {e : Expansion} {rest : List Expansion}
    {inner : Except DerefError Answer} {arrived last : Memo}
    (hmemo : e.run.memo = memo) (harrived : arrived = memo)
    (henabled : memo.enabled = true)
    (hfresh : (memo.recallTarget e.reference e.scope.base).1 = none)
    (hstraight : e.reference.key e.scope.base ∉ path)
    (htarget : Expanding (e.reference.key e.scope.base :: path)
      arrived.recordExpansion rest inner last)
    (hafter : after.enabled = true)
    (hcount : after.stats.expansions = last.stats.expansions)
    (hremains : ∀ pair, last.Remembers pair → after.Remembers pair)
    (hremembered : ∀ answer, result = .ok answer → (∃ answer', inner = .ok answer') ∧
      (e.reference.kind = .static → after.Remembers e.pair)) :
    Expanding path memo (e :: rest) result after where
  enabled := hafter
  count := by
    rw [hcount, htarget.count, List.length_cons,
      Memo.expansions_recordExpansion, harrived]
    omega
  numbered := by
    rw [List.map_cons, htarget.numbered, hmemo, List.length_cons,
      List.range'_succ, harrived]
    rfl
  remains pair hpair := hremains pair (htarget.remains pair (harrived ▸ hpair))
  fresh pair hpair := by
    rw [staticPairs_cons, List.mem_append] at hpair
    rcases hpair with hpair | hpair
    · split at hpair
      · rename_i hstatic
        rw [List.mem_singleton.mp hpair]
        exact Memo.not_remembers_of_fresh henabled hstatic hfresh
      · exact absurd hpair List.not_mem_nil
    · exact harrived ▸ htarget.fresh pair hpair
  straight pair hpair := by
    rw [staticPairs_cons, List.mem_append] at hpair
    rcases hpair with hpair | hpair
    · split at hpair
      · rename_i hstatic
        rw [List.mem_singleton.mp hpair]
        rw [Reference.key_eq_staticKey hstatic] at hstraight
        exact hstraight
      · exact absurd hpair List.not_mem_nil
    · exact fun hpath => htarget.straight pair hpair (List.mem_cons_of_mem _ hpath)
  distinct := by
    rw [staticPairs_cons]
    split
    · rename_i hstatic
      refine List.nodup_cons.mpr ⟨fun hpair => ?_, htarget.distinct⟩
      -- behind the reference its own key is on the path
      refine htarget.straight e.pair hpair ?_
      rw [Reference.key_eq_staticKey hstatic]
      exact List.mem_cons_self
    · exact htarget.distinct
  remembered answer hok pair hpair := by
    obtain ⟨⟨answer', hinner⟩, hstored⟩ := hremembered answer hok
    rw [staticPairs_cons, List.mem_append] at hpair
    rcases hpair with hpair | hpair
    · split at hpair
      · rename_i hstatic
        rw [List.mem_singleton.mp hpair]
        exact hstored hstatic
      · exact absurd hpair List.not_mem_nil
    · exact hremains pair (htarget.remembered answer' hinner pair hpair)

end Expanding

/-- That what is listed for a task is what it expands, in a call that remembers
results. -/
def Task.Lists (setup : Setup) (hops : Nat) (task : Task) : Prop :=
  ∀ way scope run result after, run.memo.enabled = true →
    (task.action setup hops scope).on run = (result, after) →
    Expanding scope.path run.memo (task.expansions setup way hops scope run)
      result after.memo

namespace Task.Lists

variable {hops : Nat}

theorem bool (value : Bool) : Lists setup hops (.node (.bool value)) := by
  intro way scope run result after henabled h
  rw [expansions]
  cases goes h
  exact .refl henabled

theorem object {id : NodeId} {keywords : Keywords NodeId}
    (ihlink : Lists setup hops (.link keywords))
    (ihmembers : Lists setup hops (.nodes (Keywords.applied keywords))) :
    Lists setup hops (.node (.object id keywords)) := by
  intro way scope run result after henabled h
  have hpath := scope.path_enter id keywords
  cases goes h with
  | recalled hit =>
    rw [expansions, if_pos (by rw [hit]; rfl)]
    exact .nil henabled (run.memo.keeps_recallNode _)
  | unlinked fresh link =>
    rw [expansions_fresh fresh, Action.listing_error link, List.append_nil, ← hpath]
    exact ihlink _ _ _ _ _ henabled link
  | unfinished fresh link members =>
    rw [expansions_fresh fresh, Action.listing_ok link, ← hpath]
    have hlink := ihlink (.entered id keywords :: way) _ _ _ _ henabled link
    exact hlink.append (ihmembers _ _ _ _ _ hlink.enabled members)
  | @concluded _ _ _ _ _ _ _ _ applied node _ fresh link members =>
    rw [expansions_fresh fresh, Action.listing_ok link, ← hpath]
    have hlink := ihlink (.entered id keywords :: way) _ _ _ _ henabled link
    exact (hlink.append (ihmembers _ _ _ _ _ hlink.enabled members)).keep
      (applied.memo.keeps_rememberNode (.object id keywords) node)

theorem nil : Lists setup hops (.nodes []) := by
  intro way scope run result after henabled h
  rw [expansions]
  cases goes h
  exact .refl henabled

theorem cons {node : Node} {rest : List Node} (ihhead : Lists setup hops (.node node))
    (ihtail : Lists setup hops (.nodes rest)) :
    Lists setup hops (.nodes (node :: rest)) := by
  intro way scope run result after henabled h
  rw [expansions_cons]
  cases goes h with
  | headFailed head =>
    rw [Action.listing_error head, List.append_nil]
    exact ihhead _ _ _ _ _ henabled head
  | tailFailed head tail =>
    rw [Action.listing_ok head]
    have hhead := ihhead way _ _ _ _ henabled head
    exact hhead.append (ihtail _ _ _ _ _ hhead.enabled tail)
  | cons head tail =>
    rw [Action.listing_ok head]
    have hhead := ihhead way _ _ _ _ henabled head
    exact (hhead.append (ihtail _ _ _ _ _ hhead.enabled tail)).keep ⟨rfl, rfl, rfl⟩

theorem link {keywords : Keywords NodeId}
    (ih : ∀ r : Reference, Lists setup hops (.reference r)) :
    Lists setup hops (.link keywords) := by
  intro way scope run result after henabled h
  cases goes h with
  | unreferring none =>
    rw [expansions, none]
    exact .refl henabled
  | @referring _ _ _ _ reference _ _ some follow =>
    obtain ⟨warnings, hwarn⟩ :=
      Action.exists_warnOfSeveral keywords reference.kind run
    rw [hwarn] at follow
    rw [expansions_referring some, hwarn]
    exact ih _ way scope { run with warnings } _ _ henabled follow

theorem reference {reference : Reference}
    (ih : ∀ less (n : Node), hops = less + 1 → Lists setup less (.node n)) :
    Lists setup hops (.reference reference) := by
  intro way scope run result after henabled h
  have hmemo := reference.memo_destination setup scope run
  cases goes h with
  | reused hit =>
    rw [expansions_idle (.inl (by rw [hit]; rfl))]
    exact .nil henabled (run.memo.keeps_recallTarget _ _)
  | circled fresh circles =>
    rw [expansions_idle (.inr circles)]
    exact .nil henabled ⟨rfl, rfl, rfl⟩
  | circular fresh circles =>
    rw [expansions_idle (.inr circles)]
    exact .refl henabled
  | tooDeep fresh straight =>
    rw [expansions]
    exact .refl henabled
  | lost fresh straight route =>
    rw [route] at hmemo
    rw [expansions_followed fresh straight, Action.listing_error route, hmemo]
    exact .refl henabled
  | @unexpanded _ _ _ _ destination _ _ _ fresh straight route target =>
    rw [route] at hmemo
    rw [expansions_followed fresh straight, Action.listing_ok route]
    have htarget := ih _ _ rfl (.followed reference destination :: way) _ _ _ _
      (hmemo ▸ henabled) target
    refine .cons rfl hmemo henabled fresh (Scope.key_not_mem_path straight) htarget
      htarget.enabled rfl (fun _ h => h) ?_
    intro answer hok
    cases hok
  | @expanded _ _ _ _ destination _ node last fresh straight route target =>
    rw [route] at hmemo
    rw [expansions_followed fresh straight, Action.listing_ok route]
    have htarget := ih _ _ rfl (.followed reference destination :: way) _ _ _ _
      (hmemo ▸ henabled) target
    obtain ⟨references, hstored⟩ :=
      last.memo.exists_rememberTarget reference scope.base node
    refine .cons rfl hmemo henabled fresh (Scope.key_not_mem_path straight)
      htarget ?_ ?_ (fun _ h => h.rememberTarget _ _ _) ?_
    · rw [hstored]
      exact htarget.enabled
    · rw [hstored]
    · intro answer _
      exact ⟨⟨_, rfl⟩, fun hstatic =>
        Memo.remembers_rememberTarget htarget.enabled hstatic _⟩

end Task.Lists

/-- What a task expands, in a call that remembers results. -/
theorem Task.expanding (hops : Nat) (task : Task) : task.Lists setup hops := by
  induction hops, task using Task.induction with
  | bool _ value => exact .bool value
  | object _ _ _ ihlink ihmembers => exact .object ihlink ihmembers
  | nil => exact .nil
  | cons _ _ _ ihhead ihtail => exact .cons ihhead ihtail
  | link _ _ ih => exact .link ih
  | reference _ _ ih => exact .reference ih

/-! ## Calls -/

/-- What is expanded in a call that remembers results, with the count it reports. -/
theorem exists_expanding (session : Session) (schema : Node)
    (hcache : setup.settings.useCache = true) :
    ∃ result after,
      Expanding [] (.empty true) (callExpansions setup session schema) result after ∧
      ∀ report, (dereference setup session schema).result = .ok report →
        report.stats = after.stats := by
  cases hon :
    (Node.deref setup setup.settings.maxDepth schema (.start schema none)).on
    (setup.begin session schema).toRun with
  | mk outcome after =>
    have hexpanding :=
      Task.expanding setup.settings.maxDepth (.node schema) [] (.start schema none)
      (setup.begin session schema).toRun _ _ hcache (Action.on_map_of Answer.node hon)
    have hempty : (setup.begin session schema).memo = .empty true := by
      rw [Setup.begin, hcache]
    rw [hempty] at hexpanding
    refine ⟨_, _, hexpanding, fun report hreport => ?_⟩
    rw [dereference_eq_of_on hon] at hreport
    cases outcome with
    | error error => cases hreport
    | ok node =>
      cases hreport
      rfl

/-- There are as many expansions as are counted. -/
theorem Expanding.encard_expands {result : Except DerefError Answer} {after : Memo}
    (h : Expanding [] (.empty true) (callExpansions setup session schema)
      result after) :
    {e | Expands setup session schema e}.encard = after.stats.expansions := by
  classical
  have hset : {e | Expands setup session schema e} =
      ((callExpansions setup session schema).toFinset : Set Expansion) := by
    ext e
    rw [Set.mem_ofPred_eq, expands_iff_mem, Finset.mem_coe, List.mem_toFinset]
  -- the counts at which they happen are all different, so they are themselves
  have hnodup : (callExpansions setup session schema).Nodup := by
    refine List.Nodup.of_map (·.run.memo.stats.expansions) ?_
    rw [h.numbered]
    exact List.nodup_range'
  rw [hset, Set.encard_coe_eq_coe_finsetCard,
    List.toFinset_card_of_nodup hnodup, h.count]
  exact congrArg Nat.cast (Nat.zero_add _).symm

/-- Of one base and one text there is one expansion at most. -/
theorem Expanding.eq_of_pair_eq {path : List String} {memo after : Memo}
    {expansions : List Expansion} {result : Except DerefError Answer}
    (h : Expanding path memo expansions result after) {e e' : Expansion}
    (hmem : e ∈ expansions) (hmem' : e' ∈ expansions)
    (hstatic : e.reference.kind = .static) (hstatic' : e'.reference.kind = .static)
    (hpair : e.pair = e'.pair) : e = e' := by
  have hfilter : ∀ e ∈ expansions, e.reference.kind = .static →
      e ∈ expansions.filter fun e => e.reference.kind = .static := by
    intro e he hkind
    exact List.mem_filter.mpr ⟨he, decide_eq_true hkind⟩
  exact List.inj_on_of_nodup_map h.distinct (hfilter e hmem hstatic)
    (hfilter e' hmem' hstatic') hpair

theorem Expands.isMet {e : Expansion} (h : Expands setup session schema e)
    (hstatic : e.reference.kind = .static) : IsMet setup session schema e.pair := by
  obtain ⟨way, hops, scope, ⟨kind, target⟩, run⟩ := e
  obtain rfl : kind = .static := hstatic
  exact ⟨way, hops + 1, scope, target, run, h.follows.reached, rfl⟩

/-- In a call that remembers results no `$ref` is expanded twice: two expansions
with one base and one text are the same one. The call reports as many expansions as
there are; if all that are expanded are `$ref`s, these are no more than the `$ref`s
that are met, told apart by base and text. -/
theorem expands_once (setup : Setup) (session : Session) (schema : Node)
    (hcache : setup.settings.useCache = true) :
    (∀ first second, Expands setup session schema first →
      Expands setup session schema second →
      first.reference.kind = .static → second.reference.kind = .static →
        first.pair = second.pair →
      first = second) ∧
    ∀ report, (dereference setup session schema).result = .ok report →
      {e | Expands setup session schema e}.encard = report.stats.expansions ∧
      ((∀ e, Expands setup session schema e → e.reference.kind = .static) →
        (report.stats.expansions : ℕ∞) ≤
          {pair | IsMet setup session schema pair}.encard) := by
  obtain ⟨result, after, hexpanding, hstats⟩ := exists_expanding session schema hcache
  have honce : ∀ first second, Expands setup session schema first →
      Expands setup session schema second → first.reference.kind = .static →
      second.reference.kind = .static → first.pair = second.pair → first = second :=
    fun first second hfirst hsecond =>
      hexpanding.eq_of_pair_eq (expands_iff_mem.mp hfirst)
        (expands_iff_mem.mp hsecond)
  refine ⟨honce, fun report hreport => ?_⟩
  have hcount : {e | Expands setup session schema e}.encard =
      report.stats.expansions := by
    rw [hstats report hreport]
    exact hexpanding.encard_expands
  refine ⟨hcount, fun hstatic => ?_⟩
  rw [← hcount]
  refine Set.encard_le_encard_of_injOn (f := Expansion.pair) ?_ ?_
  · intro e he
    exact he.isMet (hstatic e he)
  · intro first hfirst second hsecond hpair
    exact honce first second hfirst hsecond (hstatic first hfirst)
      (hstatic second hsecond) hpair

/-- A call that remembers results, and all of whose requests are answered at once,
expands as one that goes one branch after the other: no `$ref` twice. -/
theorem expands_once_atOnce (delay : Delay) (setup : Setup) (session : Session)
    (schema : Node) (hcache : setup.settings.useCache = true)
    (hatOnce : delay.AtOnce session.asked
      (dereferenceWaiting delay setup session schema).session.asked) :
    dereferenceWaiting delay setup session schema = dereference setup session schema ∧
    (∀ first second, Expands setup session schema first →
      Expands setup session schema second →
      first.reference.kind = .static → second.reference.kind = .static →
        first.pair = second.pair →
      first = second) ∧
    ∀ report, (dereferenceWaiting delay setup session schema).result = .ok report →
      {e | Expands setup session schema e}.encard = report.stats.expansions ∧
      ((∀ e, Expands setup session schema e → e.reference.kind = .static) →
        (report.stats.expansions : ℕ∞) ≤
          {pair | IsMet setup session schema pair}.encard) := by
  have hsequence := dereferenceWaiting_eq hatOnce
  obtain ⟨honce, hcount⟩ := expands_once setup session schema hcache
  refine ⟨hsequence, honce, fun report hreport => hcount report ?_⟩
  rwa [hsequence] at hreport

/-- Two properties that refer to one document. -/
def referredTwice : Document :=
  .object () [("properties", .map [
    ("first", .schema (.object () [("$ref", .value (.str "urn:b"))])),
    ("last", .schema (.object () [("$ref", .value (.str "urn:b"))]))])]

/-- The document. -/
def textDocument : Document := .object () [("type", .value (.str "string"))]

def textSetup : Setup := ⟨{}, .ofFunction fun _ => .document textDocument⟩

def referredTwiceCall (delay : Delay) : Completed :=
  dereferenceWaiting delay textSetup (Session.empty.mint referredTwice).2
    (Session.empty.mint referredTwice).1

/-- A delay of the answers for all names but that of the document. -/
def textAtOnce : Delay := .ofFunction fun name => if name = "urn:b" then 0 else 1

/-- The document is there at once, and the second property takes the result of the
one expansion. -/
theorem expands_once_referredTwice :
    textSetup.settings.useCache = true ∧
    textAtOnce.AtOnce [] (referredTwiceCall textAtOnce).session.asked ∧
    ∃ report, (referredTwiceCall textAtOnce).result = .ok report ∧
      report.stats.referenceHits = 1 ∧
      {e | Expands textSetup (Session.empty.mint referredTwice).2
        (Session.empty.mint referredTwice).1 e}.encard = 1 ∧
      (∀ e, Expands textSetup (Session.empty.mint referredTwice).2
        (Session.empty.mint referredTwice).1 e → e.reference.kind = .static) ∧
      1 ≤ {pair | IsMet textSetup (Session.empty.mint referredTwice).2
        (Session.empty.mint referredTwice).1 pair}.encard := by
  have hcache : textSetup.settings.useCache = true := rfl
  have hatOnce :
      textAtOnce.AtOnce [] (referredTwiceCall textAtOnce).session.asked := by
    have hasked : (referredTwiceCall textAtOnce).session.asked = ["urn:b"] := by
      decide +kernel
    rw [hasked]
    exact .ofFunction [] (by decide)
  obtain ⟨hsequence, -, hreports⟩ := expands_once_atOnce textAtOnce textSetup
    (Session.empty.mint referredTwice).2 (Session.empty.mint referredTwice).1
    hcache hatOnce
  obtain ⟨report, hreport, hhits, hexpansions⟩ : ∃ report, (dereference textSetup
      (Session.empty.mint referredTwice).2
      (Session.empty.mint referredTwice).1).result = .ok report ∧
        report.stats.referenceHits = 1 ∧ report.stats.expansions = 1 :=
          ⟨⟨_, _, _⟩, rfl, rfl, rfl⟩
  rw [← hsequence] at hreport
  obtain ⟨hcount, hbound⟩ := hreports report hreport
  rw [hexpansions] at hcount hbound
  -- the one expansion is that of the first property
  have whole : Reaches textSetup (Session.empty.mint referredTwice).2
    (Session.empty.mint referredTwice).1 _ _ _ _ _ := .start
  have property := ((whole.entered rfl).applied rfl).first.entered rfl
  have expands : Expands _ _ _ ⟨_, _, _, ⟨.static, "urn:b"⟩, _⟩ :=
    ⟨⟨property.referring rfl, rfl, rfl⟩, _, _, rfl⟩
  obtain ⟨only, honly⟩ := Set.encard_eq_one.mp hcount
  have hstatic : ∀ e, Expands textSetup (Session.empty.mint referredTwice).2
      (Session.empty.mint referredTwice).1 e → e.reference.kind = .static := by
    intro e he
    have hone : ∀ e, Expands _ _ _ e → e = only := fun e he => honly.subset he
    rw [hone e he, ← hone _ expands]
  exact ⟨hcache, hatOnce, report, hreport, hhits, hcount, hstatic, hbound hstatic⟩

/-- Both properties wait for the document, and neither finds a result of the other.
So a reference is expanded twice in the call, though all its references have one
text and no object has an identifier. -/
theorem expands_twice_referredTwice :
    textSetup.settings.useCache = true ∧
    ((referredTwice.preorder ++ textDocument.preorder).filterMap fun s =>
      s.keywords?.bind Keywords.reference?) =
        [⟨.static, "urn:b"⟩, ⟨.static, "urn:b"⟩] ∧
    ((referredTwice.preorder ++ textDocument.preorder).filterMap fun s =>
      s.keywords?.bind Keywords.id?) = [] ∧
    (referredTwiceCall (.ofFunction fun _ => 1)).session.asked = ["urn:b", "urn:b"] ∧
    (referredTwiceCall (.ofFunction fun _ => 1)).result.toOption.map Report.stats =
      some { expansions := 2, referenceHits := 0, nodeHits := 0 } := by
  refine ⟨rfl, ?_, ?_, ?_, ?_⟩
  all_goals decide +kernel

end SchemaDeref
