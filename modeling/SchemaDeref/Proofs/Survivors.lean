import SchemaDeref.Proofs.Growth

/-!
# References that survive

A result may still have references where a circle was cut, and nowhere else: the key
of every reference that stands where the result is applied is among the keys the
call reports.
-/

namespace SchemaDeref

variable {ι : Type}

/-! ## What an object applies -/

/-- `s.Applies t`: from the first schema one gets to the second through applicators
alone. -/
inductive Schema.Applies : Schema ι → Schema ι → Prop
  | refl (s : Schema ι) : Applies s s
  | under {mark : ι} {keywords : Keywords ι} {s t : Schema ι}
    (mem : s ∈ Keywords.applied keywords)
    (applies : Applies s t) : Applies (.object mark keywords) t

theorem Schema.Applies.erase {s t : Schema ι} (h : s.Applies t) :
    s.erase.Applies t.erase := by
  induction h with
  | refl s => exact .refl _
  | under mem _ ih =>
    rw [Schema.erase_object]
    refine .under ?_ ih
    rw [Keywords.applied_erase]
    exact List.mem_map_of_mem mem

theorem Keywords.mem_applied {keywords : Keywords ι} {s : Schema ι} :
    s ∈ applied keywords ↔
      ∃ entry ∈ keywords, (Shape.ofKeyword entry.1).isApplicator = true ∧
        s ∈ entry.2.applied := by
  induction keywords with
  | nil => simp [applied]
  | cons entry rest ih =>
    obtain ⟨name, keyword⟩ := entry
    cases ha : (Shape.ofKeyword name).isApplicator with
    | true => simp [applied_cons ha, ih, ha]
    | false => simp [applied_skip ha, ih, ha]

theorem ReferenceKind.isKeyword_keyword (kind : ReferenceKind) :
    isKeyword kind.keyword = true := by
  cases kind <;> decide

namespace Keywords

theorem isKeyword_of_mem_siblings {keywords : Keywords ι} {entry : String × Keyword ι}
    (h : entry ∈ siblings keywords) : ReferenceKind.isKeyword entry.1 = false := by
  have := (List.mem_filter.mp h).2
  simpa using this

theorem get?_siblings {name : String} (hname : ReferenceKind.isKeyword name = false)
    (keywords : Keywords ι) :
    Members.get? name (siblings keywords) = Members.get? name keywords := by
  induction keywords with
  | nil => rfl
  | cons entry rest ih =>
    obtain ⟨key, keyword⟩ := entry
    simp only [siblings, List.filter_cons] at ih ⊢
    by_cases hkey : key = name
    · subst hkey
      simp [hname, Members.get?]
    · cases ReferenceKind.isKeyword key with
      | true => simpa [Members.get?, hkey] using ih
      | false => simpa [Members.get?, hkey] using ih

theorem names_siblings (keywords : Keywords ι) :
    Members.names (siblings keywords) =
      (Members.names keywords).filter fun name => !ReferenceKind.isKeyword name := by
  rw [Members.names, Members.names, siblings, List.filter_map]
  rfl

theorem nodup_siblings {keywords : Keywords ι} (h : (Members.names keywords).Nodup) :
    (Members.names (siblings keywords)).Nodup := by
  rw [names_siblings]
  exact h.filter _

theorem string?_overwrite_siblings (lower keywords : Keywords ι)
    (kind : ReferenceKind) :
    string? (Members.overwrite lower (siblings keywords)) kind.keyword =
      string? lower kind.keyword := by
  rw [string?, string?, Members.get?_overwrite]
  rintro entry hentry heq
  have hno := isKeyword_of_mem_siblings hentry
  rw [heq, kind.isKeyword_keyword] at hno
  cases hno

/-- Siblings bring no reference along. -/
theorem reference?_overwrite_siblings (lower keywords : Keywords ι) :
    reference? (Members.overwrite lower (siblings keywords)) = reference? lower := by
  simp only [reference?, string?_overwrite_siblings]

theorem reference?_siblings (keywords : Keywords ι) :
    reference? (siblings keywords) = none := by
  simp only [reference?, List.findSome?_eq_none_iff, Option.map_eq_none_iff]
  intro kind _
  have hget : Members.get? kind.keyword (siblings keywords) = none := by
    cases hget : Members.get? kind.keyword (siblings keywords) with
    | none => rfl
    | some keyword =>
      have hno := isKeyword_of_mem_siblings (Members.mem_of_get? hget)
      rw [kind.isKeyword_keyword] at hno
      cases hno
  rw [string?, hget]

end Keywords

/-! ## Reported references -/

/-- Every reference that stands where a document is applied is known by one of the
keys. -/
def Document.Reported (edges : List String) (document : Document) : Prop :=
  ∀ keywords reference, document.Applies (.object () keywords) →
    Keywords.reference? keywords = some reference →
    ∃ base : Option String, reference.effective.key base ∈ edges

namespace Document.Reported

variable {edges : List String}

theorem mono {more : List String} {document : Document} (h : Reported edges document)
    (hedges : edges ⊆ more) : Reported more document := by
  intro keywords reference happlies hreference
  obtain ⟨base, hbase⟩ := h keywords reference happlies hreference
  exact ⟨base, hedges hbase⟩

theorem bool (value : Bool) : Reported edges (.bool value) := by
  rintro keywords reference ⟨⟩

theorem object {keywords : Keywords Unit}
    (hself : ∀ reference, Keywords.reference? keywords = some reference →
      ∃ base : Option String, reference.effective.key base ∈ edges)
    (hmembers : ∀ s ∈ Keywords.applied keywords, Reported edges s) :
    Reported edges (.object () keywords) := by
  intro others reference happlies hreference
  cases happlies with
  | refl => exact hself reference hreference
  | under mem happlies => exact hmembers _ mem others reference happlies hreference

theorem self {keywords : Keywords Unit} (h : Reported edges (.object () keywords))
    {reference : Reference}
    (hreference : Keywords.reference? keywords = some reference) :
    ∃ base : Option String, reference.effective.key base ∈ edges :=
  h keywords reference (.refl _) hreference

theorem of_mem_applied {keywords : Keywords Unit}
    (h : Reported edges (.object () keywords)) {s : Document}
    (hs : s ∈ Keywords.applied keywords) : Reported edges s :=
  fun others reference happlies hreference =>
    h others reference (.under hs happlies) hreference

/-- Laying siblings over a target uncovers no reference. -/
theorem overlaid {target : Document} {members : Keywords Unit}
    (htarget : Reported edges target)
    (hmembers : ∀ s ∈ Keywords.applied members, Reported edges s) :
    Reported edges (target.overlaid (Keywords.siblings members)) := by
  have hsiblings : ∀ s ∈ Keywords.applied (Keywords.siblings members), Reported
      edges s := by
    rw [Keywords.applied_siblings]
    exact hmembers
  simp only [Schema.overlaid]
  split
  · exact htarget
  · cases target with
    | bool value =>
      cases value with
      | false => exact htarget
      | true =>
        refine object ?_ hsiblings
        intro reference hreference
        rw [Keywords.reference?_siblings] at hreference
        cases hreference
    | object mark keywords =>
      refine object ?_ ?_
      -- siblings have no reference keyword, so the target keeps the one it has
      · intro reference hreference
        rw [Keywords.reference?_overwrite_siblings] at hreference
        exact htarget.self hreference
      · intro s hs
        obtain ⟨entry, hentry, happlicator, hs⟩ := Keywords.mem_applied.mp hs
        rcases Members.mem_overwrite hentry with hentry | hentry
        · exact htarget.of_mem_applied
            (Keywords.mem_applied.mpr ⟨entry, hentry, happlicator, hs⟩)
        · exact hsiblings s
            (Keywords.mem_applied.mpr ⟨entry, hentry, happlicator, hs⟩)

end Document.Reported

/-! ## Walks -/

/-- Every remembered result is reported. -/
def State.Reported (state : State) : Prop :=
  ∀ note ∈ state.notes, Document.Reported state.memo.edges note.result.erase

theorem State.Reported.mono {state : State} (h : state.Reported) {edges : List String}
    (hedges : state.memo.edges ⊆ edges) :
    ∀ note ∈ state.notes, Document.Reported edges note.result.erase :=
  fun note hnote => (h note hnote).mono hedges

theorem State.Reported.noteNode {state : State} (h : state.Reported)
    {node result : Node} (hresult : Document.Reported state.memo.edges result.erase)
    (reach : Reach) (next : NodeId) :
    ({ state with next }.noteNode node result reach).Reported ∧
      Document.Reported ({ state with next }.noteNode node result reach).memo.edges
        result.erase := by
  have hedges := (State.grows_noteNode state node result reach next).edges
  have hnew := hresult.mono hedges
  exact ⟨List.forall_mem_cons.mpr ⟨hnew, h.mono hedges⟩, hnew⟩

theorem State.Reported.noteReference {state : State} (h : state.Reported)
    {result : Node} (hresult : Document.Reported state.memo.edges result.erase)
    (reference : Reference) (base : Option String) (reach : Reach) :
    (state.noteReference reference base result reach).Reported ∧
      Document.Reported (state.noteReference reference base result reach).memo.edges
        result.erase := by
  have hedges := (State.grows_noteReference state reference base result reach).edges
  have hnew := hresult.mono hedges
  refine ⟨?_, hnew⟩
  simp only [State.Reported, State.noteReference] at hedges hnew ⊢
  split
  · exact List.forall_mem_cons.mpr ⟨hnew, h.mono hedges⟩
  · exact h.mono hedges

/-- What an answer to a task has to do with the keys. -/
def Task.Reported (edges : List String) : Task → Answer → Prop
  | .node _, .node result => Document.Reported edges result.erase
  | .nodes _, .nodes results =>
    ∀ result ∈ results, Document.Reported edges result.erase
  | .link _, .outcome (.target target) => Document.Reported edges target.erase
  | .link keywords, .outcome .kept => ∀ reference, Keywords.reference? keywords =
    some reference →
      ∃ base : Option String, reference.effective.key base ∈ edges
  | .reference _, .outcome (.target target) => Document.Reported edges target.erase
  | .reference r, .outcome .kept => ∃ base : Option String, r.key base ∈ edges
  | _, _ => False

/-- An object is reported once its reference and the schemas it applies are. -/
theorem Document.reported_concluded {edges : List String} {keywords : Keywords Unit}
    {results : List Document}
    (hlength : results.length = (Keywords.applied keywords).length)
    (hresults : ∀ result ∈ results, Document.Reported edges result)
    {outcome : Option Document}
    (htarget : ∀ target, outcome = some target → Document.Reported edges target)
    (hkept : outcome = none →
      ∀ reference, Keywords.reference? keywords = some reference →
      ∃ base : Option String, reference.effective.key base ∈ edges) :
    Document.Reported edges
      (Document.concluded (Keywords.refill keywords results) outcome) := by
  have hmembers : ∀ s ∈ Keywords.applied (Keywords.refill keywords results),
      Document.Reported edges s := by
    rw [Keywords.applied_refill _ _ hlength]
    exact hresults
  cases outcome with
  | some target => exact (htarget target rfl).overlaid hmembers
  | none =>
    refine .object ?_ hmembers
    rw [Keywords.reference?_refill]
    exact hkept rfl

/-- The same of what a walk found, where keys may have been added since the reference
of the object was dealt with. -/
theorem Task.Reported.concluded {edges edges' : List String}
    {keywords : Keywords NodeId} {outcome : Outcome} {results : List Node}
    (hmore : edges ⊆ edges')
    (hlength : results.length = (Keywords.applied keywords).length)
    (houtcome : (Task.link keywords).Reported edges (.outcome outcome))
    (hresults : (Task.nodes (Keywords.applied keywords)).Reported edges'
      (.nodes results)) :
    Document.Reported edges' (Document.concluded
      (Keywords.refill (eraseEntries keywords) (results.map Schema.erase))
      outcome.erase) := by
  refine Document.reported_concluded ?_ ?_ ?_ ?_
  · rw [Keywords.applied_erase, List.length_map, List.length_map, hlength]
  · intro s hs
    obtain ⟨new, hnew, rfl⟩ := List.mem_map.mp hs
    exact hresults new hnew
  · rintro target htarget
    cases outcome with
    | kept => cases htarget
    | target node =>
      cases htarget
      exact Document.Reported.mono houtcome hmore
  · intro hkept reference hreference
    rw [Keywords.reference?_erase] at hreference
    cases outcome with
    | target node => cases hkept
    | kept =>
      obtain ⟨base, hbase⟩ := houtcome reference hreference
      exact ⟨base, hmore hbase⟩

/-- What is asked of the effective reference of an object is asked of the object. -/
theorem Task.Reported.referring {edges : List String} {keywords : Keywords NodeId}
    {reference : Reference} (hsome : Keywords.reference? keywords = some reference)
    {answer : Answer}
    (h : (Task.reference reference.effective).Reported edges answer) :
    (Task.link keywords).Reported edges answer := by
  cases answer with
  | node _ | nodes _ => exact h.elim
  | outcome outcome =>
    cases outcome with
    | target node => exact h
    | kept =>
      intro other hother
      rw [hsome] at hother
      cases hother
      exact h

theorem Walk.reported {setup : Setup} {Fair : Fairness} {hops : Nat}
    {scope : Scope} {task : Task} {state after : State}
    {result : Except DerefError Answer} {reach : Reach}
    (walk : Walk setup Fair hops scope task state result after reach) :
    state.Reported → ∀ answer, result = .ok answer →
      after.Reported ∧ task.Reported after.memo.edges answer := by
  -- every remembered result is reported, so a reused one is
  induction walk with
  | unlinked | unfinished | headFailed | tailFailed | circular | tooDeep | lost
  | unexpanded =>
    rintro _ answer ⟨⟩
  | bool =>
    rintro hstate answer ⟨⟩
    refine ⟨hstate, ?_⟩
    rw [Task.Reported, Schema.erase_bool]
    exact .bool _
  | @recalled _ _ id keywords state note _ noted _ _ =>
    rintro hstate answer ⟨⟩
    have hedges : state.memo.edges ⊆
        (state.lookNode (.object id keywords)).memo.edges :=
      (State.grows_lookNode state _).edges
    exact ⟨hstate.mono hedges, (hstate note noted).mono hedges⟩
  | @concluded _ _ id keywords state outcome middle results after result next _ _
    fresh link members
      conclude erase ihlink ihmembers =>
    rintro hstate answer ⟨⟩
    obtain ⟨hmiddle, houtcome⟩ := ihlink hstate _ rfl
    obtain ⟨hafter, hresults⟩ := ihmembers hmiddle _ rfl
    have hresult : Document.Reported after.memo.edges result.erase := by
      rw [erase]
      -- what was reported stays reported: keys are only added
      exact Task.Reported.concluded members.grows.edges (members.fits _ rfl)
        houtcome hresults
    exact hafter.noteNode hresult _ next
  | nil =>
    rintro hstate answer ⟨⟩
    exact ⟨hstate, fun result hresult => absurd hresult List.not_mem_nil⟩
  | cons head tail ihhead ihtail =>
    rintro hstate answer ⟨⟩
    obtain ⟨hmiddle, hresult⟩ := ihhead hstate _ rfl
    obtain ⟨hafter, hresults⟩ := ihtail hmiddle _ rfl
    exact ⟨hafter, List.forall_mem_cons.mpr
      ⟨Document.Reported.mono hresult tail.grows.edges, hresults⟩⟩
  | unreferring none =>
    rintro hstate answer ⟨⟩
    refine ⟨hstate, fun reference hreference => ?_⟩
    rw [none] at hreference
    cases hreference
  | @referring _ _ keywords _ reference _ _ _ some follow ih =>
    intro hstate answer hanswer
    obtain ⟨hafter, hreported⟩ := ih hstate answer hanswer
    exact ⟨hafter, Task.Reported.referring some hreported⟩
  | @reused _ scope reference state note _ _ noted _ _ =>
    rintro hstate answer ⟨⟩
    have hedges : state.memo.edges ⊆
        (state.lookReference reference scope.base).memo.edges :=
      (State.grows_lookReference state _ _).edges
    exact ⟨hstate.mono hedges, (hstate note noted).mono hedges⟩
  | @circled _ scope reference state =>
    rintro hstate answer ⟨⟩
    refine ⟨hstate.mono (State.grows_recordEdge state _).edges, scope.base, ?_⟩
    exact Memo.mem_insertKey.mpr (.inl rfl)
  | @expanded _ scope reference state destination run result after _ _ _ route _ ih =>
    rintro hstate answer ⟨⟩
    have hbegin : (State.recordExpansion ⟨run, state.notes⟩).Reported := by
      intro note hnote
      rw [State.edges_route route]
      exact hstate note hnote
    obtain ⟨hafter, hresult⟩ := ih hbegin _ rfl
    exact hafter.noteReference hresult reference scope.base _

/-! ## Calls -/

/-- Every reference that a result still applies is reported: its key, with some
base, is among the edges. Where circular references are failures nothing is
reported, and where nothing is reported no reference is left. -/
theorem dereference_reports_survivors (setup : Setup) {session : Session}
    {schemas : List Node} {schema : Node} (h : session.Holds schemas)
    (hschema : schema ∈ schemas) {report : Report}
    (hok : (dereference setup session schema).result = .ok report) :
    (∀ id keywords reference, report.schema.Applies (.object id keywords) →
      Keywords.reference? keywords = some reference →
      ∃ base : Option String, reference.effective.key base ∈ report.edges) ∧
    (setup.settings.cyclePolicy = .error → report.edges = []) ∧
    (report.edges = [] → ∀ id keywords, report.schema.Applies (.object id keywords) →
      Keywords.reference? keywords = none) := by
  obtain ⟨result, after, reach, walk, _, _⟩ := exists_callWalk setup h hschema
  rw [walk.dereference_eq] at hok
  cases result with
  | error error => cases hok
  | ok node =>
    cases hok
    have hbegin : (setup.begin session schema).Reported := by
      intro note hnote
      exact absurd hnote List.not_mem_nil
    have hreported : Document.Reported after.memo.edges node.erase :=
      (Walk.reported walk hbegin _ rfl).2
    have hsurvivors : ∀ id keywords reference, node.Applies (.object id keywords) →
        Keywords.reference? keywords = some reference →
        ∃ base : Option String, reference.effective.key base ∈ after.memo.edges := by
      intro id keywords reference happlies hreference
      have herase := happlies.erase
      rw [Schema.erase_object] at herase
      exact hreported _ reference herase
        (by rw [Keywords.reference?_erase, hreference])
    refine ⟨hsurvivors, ?_, ?_⟩
    · intro hpolicy
      exact walk.edges_eq (by rw [hpolicy]; rfl)
    · intro hedges id keywords happlies
      cases hreference : Keywords.reference? keywords with
      | none => rfl
      | some reference =>
        obtain ⟨base, hbase⟩ := hsurvivors id keywords reference happlies hreference
        rw [show after.memo.edges = [] from hedges] at hbase
        exact absurd hbase List.not_mem_nil

/-- A schema whose only property refers to the whole of it. -/
def selfReferring : Document :=
  .object () [("properties",
    .map [("next", .schema (.object () [("$ref", .value (.str "#"))]))])]

theorem dereference_reports_selfReferring :
    ∃ report : Report,
      (dereference ⟨{ cyclePolicy := .ignore }, .none⟩
        (Session.empty.mint selfReferring).2
        (Session.empty.mint selfReferring).1).result = .ok report ∧
      report.edges = ["$ref||#"] ∧
      ∀ id keywords reference, report.schema.Applies (.object id keywords) →
        Keywords.reference? keywords = some reference →
        ∃ base : Option String, reference.effective.key base ∈ report.edges :=
  ⟨⟨(Session.empty.mint selfReferring).1, ["$ref||#"], ⟨0, 0, 0⟩⟩, rfl, rfl,
    (dereference_reports_survivors ⟨{ cyclePolicy := .ignore }, .none⟩
      (Session.holds_empty.mint selfReferring) List.mem_cons_self rfl).1⟩

end SchemaDeref
