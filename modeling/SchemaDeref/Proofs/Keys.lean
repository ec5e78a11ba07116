import SchemaDeref.Proofs.Depth
import SchemaDeref.Proofs.Edges

/-!
# The keys

The key of a reference is the keyword of its kind, the base it is read in and its
text, with bars between them. Keywords have no bars, but bases and texts may have
some, and then another reference read in another base can have the same key: its
base goes on behind a bar with what the text of the first begins with, up to a bar.
There is no other way (`Reference.key_eq_key_iff`). So what a call takes for
circular names the node around it, is in flight already or overlaps with a reference
in flight (`keys_overlap`). In the last case nothing needs to be circular
(`keys_overlap_barredIdentifier`).
-/

namespace SchemaDeref

/-! ## Texts around a bar -/

/-- The second front goes on, behind a bar, with what the first back begins with, up
to a bar. -/
def Overlaps (front back front' back' : String) : Prop :=
  ∃ part, front' = front ++ "|" ++ part ∧ back = part ++ "|" ++ back'

theorem append_cons_eq_append_cons_iff {α : Type} {c : α}
    {front back front' back' : List α} :
    front ++ c :: back = front' ++ c :: back' ↔
      (front = front' ∧ back = back') ∨
        (∃ part, front' = front ++ c :: part ∧ back = part ++ c :: back') ∨
        ∃ part, front = front' ++ c :: part ∧ back' = part ++ c :: back := by
  rw [List.append_eq_append_iff]
  constructor
  · rintro (⟨more, hfront, hback⟩ | ⟨more, hfront, hback⟩)
    · cases more with
      | nil =>
        cases hback
        exact .inl ⟨(hfront.trans (List.append_nil _)).symm, rfl⟩
      | cons d part =>
        cases hback
        exact .inr (.inl ⟨part, hfront, rfl⟩)
    · cases more with
      | nil =>
        cases hback
        exact .inl ⟨hfront.trans (List.append_nil _), rfl⟩
      | cons d part =>
        cases hback
        exact .inr (.inr ⟨part, hfront, rfl⟩)
  · rintro (⟨rfl, rfl⟩ | ⟨part, rfl, rfl⟩ | ⟨part, rfl, rfl⟩)
    · exact .inl ⟨[], (List.append_nil _).symm, rfl⟩
    · exact .inl ⟨c :: part, rfl, rfl⟩
    · exact .inr ⟨c :: part, rfl, rfl⟩

theorem overlaps_iff {front back front' back' : String} :
    Overlaps front back front' back' ↔ ∃ part, front'.toList = front.toList ++
      '|' :: part ∧
      back.toList = part ++ '|' :: back'.toList := by
  have hbar : ∀ first last : String, (first ++ "|" ++ last).toList = first.toList ++
      '|' :: last.toList := by
    intro first last
    rw [String.toList_append, String.toList_append, List.append_assoc]
    rfl
  constructor
  · rintro ⟨part, rfl, rfl⟩
    exact ⟨part.toList, hbar _ _, hbar _ _⟩
  · rintro ⟨part, hfront, hback⟩
    refine ⟨String.ofList part, String.toList_inj.mp ?_, String.toList_inj.mp ?_⟩
    · rw [hbar, String.toList_ofList, hfront]
    · rw [hbar, String.toList_ofList, hback]

/-- Texts around a bar are the same together only if each is the same or they
overlap. -/
theorem append_bar_eq_append_bar_iff {front back front' back' : String} :
    front ++ "|" ++ back = front' ++ "|" ++ back' ↔ (front = front' ∧ back = back') ∨
      Overlaps front back front' back' ∨ Overlaps front' back' front back := by
  simp only [overlaps_iff, ← String.toList_inj, String.toList_append]
  have hbar : "|".toList = ['|'] := rfl
  rw [hbar, List.append_assoc, List.append_assoc]
  exact append_cons_eq_append_cons_iff

/-! ## Keys -/

namespace ReferenceKind

theorem bar_not_mem_keyword (kind : ReferenceKind) : '|' ∉ kind.keyword.toList := by
  cases kind <;> decide

theorem keyword_inj {kind other : ReferenceKind} :
    kind.keyword = other.keyword ↔ kind = other := by
  cases kind <;> cases other <;> decide

end ReferenceKind

namespace Reference

/-- References of one kind whose bases and texts overlap. -/
def Blurs (reference : Reference) (base : Option String) (other : Reference)
    (around : Option String) :
    Prop :=
  reference.kind = other.kind ∧
    (Overlaps (base.getD "") reference.target (around.getD "") other.target ∨
      Overlaps (around.getD "") other.target (base.getD "") reference.target)

/-- One reference in one base, or two that overlap; no base and the empty one are
the same here. -/
def Alike (reference : Reference) (base : Option String) (other : Reference)
    (around : Option String) :
    Prop :=
  (reference = other ∧ base.getD "" = around.getD "") ∨
    reference.Blurs base other around

theorem key_eq_key_iff {reference other : Reference} {base around : Option String} :
    reference.key base = other.key around ↔ reference.Alike base other around := by
  obtain ⟨kind, target⟩ := reference
  obtain ⟨kind', target'⟩ := other
  have hkey : ∀ (kind : ReferenceKind) (base : Option String) (target : String),
      (⟨kind, target⟩ : Reference).key base = kind.keyword ++ "|" ++
        (base.getD "" ++ "|" ++ target) := by
    intro kind base target
    simp only [key, String.append_assoc]
  -- the first bar of a key is the one behind the keyword
  have hoverlaps : ∀ (kind kind' : ReferenceKind) (rest rest' : String),
      ¬ Overlaps kind.keyword rest kind'.keyword rest' := by
    intro kind kind' rest rest' h
    obtain ⟨part, hfront, _⟩ := overlaps_iff.mp h
    refine kind'.bar_not_mem_keyword ?_
    rw [hfront]
    exact List.mem_append_right _ List.mem_cons_self
  have hnone : ∀ rest rest' : String,
      ¬ (Overlaps kind.keyword rest kind'.keyword rest' ∨
      Overlaps kind'.keyword rest' kind.keyword rest) :=
    fun rest rest' =>
      not_or.mpr ⟨hoverlaps kind kind' rest rest', hoverlaps kind' kind rest' rest⟩
  rw [hkey, hkey, append_bar_eq_append_bar_iff, or_iff_left (hnone _ _),
    ReferenceKind.keyword_inj, append_bar_eq_append_bar_iff, Alike, Blurs,
    Reference.mk.injEq]
  tauto

end Reference

/-- The number of bars in a base. -/
def barsIn (base : Option String) : Nat := (base.getD "").toList.count '|'

theorem Overlaps.count_lt {front back front' back' : String}
    (h : Overlaps front back front' back') :
    front.toList.count '|' < front'.toList.count '|' := by
  obtain ⟨part, hfront, _⟩ := overlaps_iff.mp h
  rw [hfront, List.count_append, List.count_cons_self]
  omega

/-- Where references overlap, one base has more bars than the other. -/
theorem Reference.Blurs.barsIn_ne {reference other : Reference}
    {base around : Option String} (h : reference.Blurs base other around) :
    barsIn base ≠ barsIn around := by
  rcases h.2 with hoverlaps | hoverlaps
  · exact hoverlaps.count_lt.ne
  · exact hoverlaps.count_lt.ne'

/-! ## References on the path -/

/-- A reference is in flight on a way, or one that overlaps with it. -/
def Way.Meets (way : Way) (reference : Reference) (base : Option String) : Prop :=
  ∃ flight ∈ way.inFlight, reference.Alike base flight.2 flight.1

variable {setup : Setup} {session : Session} {schema : Node}

theorem Reaches.onPath_iff_meets {way : Way} {hops : Nat} {scope : Scope}
    {reference : Reference} {run : Run}
    (reaches : Reaches setup session schema way hops scope
      (.reference reference) run) :
    scope.onPath (reference.key scope.base) = true ↔
      way.Meets reference scope.base := by
  rw [Scope.onPath, List.contains_iff_mem, reaches.measures.path, Way.keys,
    List.mem_map, Way.Meets]
  refine exists_congr fun flight => and_congr_right fun _ => ?_
  rw [eq_comm, Reference.key_eq_key_iff]

/-- A reference is circular if it names the node around it, or by what is in flight. -/
theorem Reaches.circles_iff {way : Way} {hops : Nat} {scope : Scope}
    {reference : Reference} {run : Run}
    (reaches : Reaches setup session schema way hops scope
      (.reference reference) run) :
    scope.view.circles reference = true ↔
      reference.isSelf scope.view = true ∨ way.Meets reference scope.base := by
  rw [View.circles, Scope.view_onPath, Scope.view_base, Bool.or_eq_true,
    reaches.onPath_iff_meets, or_comm]

/-- As long as the bases in flight have as many bars as the one a reference is read
in, its key is on the path only if the reference itself is in flight, with this base. -/
theorem Reaches.onPath_iff_of_barsIn {way : Way} {hops : Nat} {scope : Scope}
    {reference : Reference} {run : Run}
    (reaches : Reaches setup session schema way hops scope (.reference reference)
      run)
    (hbars : ∀ flight ∈ way.inFlight, barsIn scope.base = barsIn flight.1) :
    scope.onPath (reference.key scope.base) = true ↔
      ∃ flight ∈ way.inFlight, reference = flight.2 ∧
        scope.base.getD "" = flight.1.getD "" := by
  rw [reaches.onPath_iff_meets, Way.Meets]
  refine exists_congr fun flight => and_congr_right fun hflight => or_iff_left
    fun hblurs => ?_
  exact hblurs.barsIn_ne (hbars flight hflight)

/-! ## What is taken for circular -/

/-- Two keys are the same if the references are and their bases too, or if they are
of one kind and overlap. So the key of a reference that a call comes to is on the
path just if the reference is in flight, or one that overlaps with it; where all
bases have equally many bars, the reference itself is. What a call reports for
circular, in an error that is not that of its loader or among the kept edges, names
the node around it or meets what is in flight in this way. -/
theorem keys_overlap (setup : Setup) (session : Session) (schema : Node) :
    (∀ (reference other : Reference) (base around : Option String),
      reference.key base = other.key around ↔
        (reference = other ∧ base.getD "" = around.getD "") ∨
          reference.kind = other.kind ∧
            (Overlaps (base.getD "") reference.target (around.getD "") other.target ∨
              Overlaps (around.getD "") other.target (base.getD "")
                reference.target)) ∧
    (∀ way hops scope reference run,
      Reaches setup session schema way hops scope (.reference reference) run →
      (scope.onPath (reference.key scope.base) = true ↔
        way.Meets reference scope.base) ∧
      ((∀ flight ∈ way.inFlight, barsIn scope.base = barsIn flight.1) →
        (scope.onPath (reference.key scope.base) = true ↔
          ∃ flight ∈ way.inFlight, reference = flight.2 ∧
            scope.base.getD "" = flight.1.getD ""))) ∧
    (∀ target, (dereference setup session schema).result = .error (.circular target) →
      (∃ way name asked, LooksUp setup session schema way name ∧
        setup.loader asked name = .refused (.circular target)) ∨
      ∃ way hops scope reference run,
        Reaches setup session schema way hops scope (.reference reference) run ∧
          reference.target = target ∧
          (reference.isSelf scope.view = true ∨ way.Meets reference scope.base)) ∧
    ∀ report, (dereference setup session schema).result = .ok report →
      ∀ key ∈ report.edges,
      ∃ way hops scope reference run,
        Reaches setup session schema way hops scope (.reference reference) run ∧
          reference.key scope.base = key ∧
          (reference.isSelf scope.view = true ∨ way.Meets reference scope.base) := by
  refine ⟨?_, ?_, ?_, ?_⟩
  · intro reference other base around
    exact Reference.key_eq_key_iff
  · intro way hops scope reference run reaches
    exact ⟨reaches.onPath_iff_meets, reaches.onPath_iff_of_barsIn⟩
  · intro target h
    generalize herror : DerefError.circular target = error at h
    cases dereference_faults h with
    | circular reached circles =>
      cases herror
      exact .inr ⟨_, _, _, _, _, reached, rfl, reached.circles_iff.mp circles⟩
    | tooDeep reached straight => cases herror
    | lost follows route =>
      subst herror
      have hfollowing : (DerefError.circular target).IsOfFollowing := trivial
      obtain ⟨uri, huri, hrefused⟩ := Reference.exists_refused hfollowing route
      exact .inl ⟨_, _, _, ⟨_, _, _, _, uri, follows, huri, rfl⟩, hrefused⟩
  · intro report h key hkey
    obtain ⟨way, hops, scope, reference, run, hcircles, rfl⟩ :=
      isCircleKey_of_mem_edges h key hkey
    exact ⟨way, hops, scope, reference, run, hcircles.reached, rfl,
      hcircles.reached.circles_iff.mp hcircles.circular⟩

/-- In a document that refers to itself the reference is in flight when it comes up
again. -/
theorem keys_overlap_inverse :
    (dereference ⟨{}, .none⟩ (Session.empty.mint inverse).2
      (Session.empty.mint inverse).1).result =
      .error (.circular "#/not") ∧
    (∃ way hops scope reference run,
      Reaches ⟨{}, .none⟩ (Session.empty.mint inverse).2
        (Session.empty.mint inverse).1 way hops scope (.reference reference) run ∧
          reference.target = "#/not" ∧
        (reference.isSelf scope.view = true ∨ way.Meets reference scope.base)) ∧
    ∃ way hops scope run,
      Reaches ⟨{}, .none⟩ (Session.empty.mint inverse).2
        (Session.empty.mint inverse).1 way hops scope
        (.reference ⟨.static, "#/not"⟩) run ∧
        ∃ flight ∈ way.inFlight, ⟨.static, "#/not"⟩ = flight.2 ∧
          scope.base.getD "" = flight.1.getD "" := by
  have failed : (dereference ⟨{}, .none⟩ (Session.empty.mint inverse).2
      (Session.empty.mint inverse).1).result = .error (.circular "#/not") := rfl
  obtain ⟨_, exact, circular, _⟩ :=
    keys_overlap ⟨{}, .none⟩ (Session.empty.mint inverse).2
    (Session.empty.mint inverse).1
  refine ⟨failed, ?_, ?_⟩
  · rcases circular _ failed with ⟨way, name, asked, looks, refused⟩ | reached
    · cases refused
    · exact reached
  · have whole : Reaches ⟨{}, .none⟩ (Session.empty.mint inverse).2
        (Session.empty.mint inverse).1
      _ _ _ _ _ := .start
    have inside := ((whole.entered rfl).applied rfl).first.entered rfl
    have again := ((inside.referring rfl).followed rfl rfl rfl).entered rfl
    have reached := again.referring rfl
    have alone := (exact _ _ _ _ _ reached).2 (List.forall_mem_singleton.mpr rfl)
    exact ⟨_, _, _, _, reached, alone.mp rfl⟩

/-- A reference to a document whose identifier is another than its name. -/
def barredIdentifier : Document :=
  .object () [("$id", .value (.str "http://h/a")), ("$ref", .value (.str "b|c"))]

/-- The document that is referred to refers to a text. -/
def barredLoader : Loader := .ofFunction fun name =>
  if name = "http://h/b|c" then
    .document (.object () [("$id", .value (.str "http://h/a|b")),
      ("$ref", .value (.str "c"))])
  else if name = "http://h/c" then
    .document (.object () [("type", .value (.str "string"))])
  else .absent

/-- A reference in a document is taken for the one that led there, which overlaps
with it. -/
theorem keys_overlap_barredIdentifier :
    (⟨.static, "b|c"⟩ : Reference).key (some "http://h/a") =
      (⟨.static, "c"⟩ : Reference).key (some "http://h/a|b") ∧
    (⟨.static, "b|c"⟩ : Reference) ≠ ⟨.static, "c"⟩ ∧
    (dereference ⟨{}, barredLoader⟩ (Session.empty.mint barredIdentifier).2
      (Session.empty.mint barredIdentifier).1).error? = some (.circular "c") ∧
    (dereference ⟨{}, barredLoader⟩ (Session.empty.mint barredIdentifier).2
      (Session.empty.mint barredIdentifier).1).session.asked = ["http://h/b|c"] := by
  refine ⟨by decide +kernel, by decide, ?_, ?_⟩
  · decide +kernel
  · decide +kernel

end SchemaDeref
