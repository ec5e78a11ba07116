import Mathlib.Data.List.Forall2
import SchemaDeref.Proofs.Applied

/-!
# Keywords and refilled keywords

What relates the schemas in a keyword to those put in their places one by one,
relates the keyword to the refilled one, if it is handed up through lists and maps.
-/

namespace SchemaDeref

variable {ι : Type} {R : Schema ι → Schema ι → Prop}
  {K : Keyword ι → Keyword ι → Prop}

/-- What holds of the elements of a list holds of those of another, where each hands
it to the one at its place. -/
theorem forall_mem_of_forall₂ {α β : Type} {P : α → Prop} {Q : β → Prop}
    {xs : List α} {ys : List β} (h : List.Forall₂ (fun x y => P x → Q y) xs ys)
    (hxs : ∀ x ∈ xs, P x) : ∀ y ∈ ys, Q y := by
  induction h with
  | nil => exact fun _ hy => absurd hy List.not_mem_nil
  | cons hfirst _ ih =>
    obtain ⟨hx, hrest⟩ := List.forall_mem_cons.mp hxs
    exact List.forall_mem_cons.mpr ⟨hfirst hx, ih hrest⟩

/-- Two lists of entries have the same names in the same order, and their values are
related. -/
abbrev AreRelatedEntries (K : Keyword ι → Keyword ι → Prop) :
    List (String × Keyword ι) → List (String × Keyword ι) → Prop :=
  List.Forall₂ fun old new => old.1 = new.1 ∧ K old.2 new.2

/-- Related entries have related values under the same names. -/
theorem AreRelatedEntries.exists_get? {olds news : List (String × Keyword ι)}
    (h : AreRelatedEntries K olds news) {name : String} {old : Keyword ι}
    (hold : Members.get? name olds = some old) :
    ∃ new, Members.get? name news = some new ∧ K old new := by
  induction h with
  | nil => cases hold
  | @cons first second _ _ hfirst _ ih =>
    rw [Members.get?] at hold
    rw [Members.get?, ← hfirst.1]
    split at hold
    · cases hold
      exact ⟨second.2, by simp_all, hfirst.2⟩
    · rename_i hne
      simpa [hne] using ih hold

theorem AreRelatedEntries.names_eq {olds news : List (String × Keyword ι)}
    (h : AreRelatedEntries K olds news) :
    Members.names olds = Members.names news := by
  induction h with
  | nil => rfl
  | cons hfirst _ ih => exact congrArg₂ List.cons hfirst.1 ih

/-- A relation between keywords that holds as soon as one between the schemas in
them does. -/
structure HandsUp (R : Schema ι → Schema ι → Prop)
    (K : Keyword ι → Keyword ι → Prop) : Prop where
  schema : ∀ {old new}, R old new → K (.schema old) (.schema new)
  list : ∀ {olds news}, List.Forall₂ K olds news → K (.list olds) (.list news)
  map : ∀ {olds news}, AreRelatedEntries K olds news → K (.map olds) (.map news)
  value : ∀ data, K (.value data) (.value data)

/-- A list that is related to two others, one after the other, has two parts. -/
private theorem exists_parts_of_forall₂ {front back news : List (Schema ι)}
    (h : List.Forall₂ R (front ++ back) news) :
    ∃ first second, news = first ++ second ∧ List.Forall₂ R front first ∧
      List.Forall₂ R back second :=
  ⟨news.take front.length, news.drop front.length,
    (List.take_append_drop _ news).symm,
    (List.forall₂_take_append news front back h.flip).flip,
    (List.forall₂_drop_append news front back h.flip).flip⟩

mutual

theorem Keyword.related_refill (up : HandsUp R K) :
    ∀ (keyword : Keyword ι) (news : List (Schema ι)), List.Forall₂ R keyword.applied
      news →
      K keyword (keyword.refill news)
  | .schema s, news, h => by
    obtain ⟨new, _, hnew, hnil, rfl⟩ := List.forall₂_cons_left_iff.mp h
    exact up.schema hnew
  | .list items, news, h => by
    rw [Keyword.refill]
    exact up.list (related_refillItems up items news h)
  | .map entries, news, h => by
    rw [Keyword.refill]
    exact up.map (related_refillEntries up entries news h)
  | .value data, _, _ => up.value data

theorem related_refillItems (up : HandsUp R K) :
    ∀ (items : List (Keyword ι)) (news : List (Schema ι)),
      List.Forall₂ R (appliedItems items) news →
        List.Forall₂ K items (refillItems items news)
  | [], _, _ => .nil
  | item :: rest, news, h => by
    obtain ⟨front, back, rfl, hfront, hback⟩ := exists_parts_of_forall₂ h
    rw [refillItems_cons hfront.length_eq.symm]
    exact .cons (item.related_refill up front hfront)
      (related_refillItems up rest back hback)

theorem related_refillEntries (up : HandsUp R K) :
    ∀ (entries : List (String × Keyword ι)) (news : List (Schema ι)),
      List.Forall₂ R (appliedEntries entries) news →
      AreRelatedEntries K entries (refillEntries entries news)
  | [], _, _ => .nil
  | (name, entry) :: rest, news, h => by
    obtain ⟨front, back, rfl, hfront, hback⟩ := exists_parts_of_forall₂ h
    rw [refillEntries_cons hfront.length_eq.symm]
    exact .cons ⟨rfl, entry.related_refill up front hfront⟩
      (related_refillEntries up rest back hback)

end

/-- What relates every schema to itself is handed up to every keyword. -/
theorem HandsUp.refl (up : HandsUp R K) (hR : ∀ s, R s s) (keyword : Keyword ι) :
    K keyword keyword := by
  have h := keyword.related_refill up keyword.applied (List.forall₂_same.mpr
      fun s _ => hR s)
  rwa [keyword.refill_applied] at h

/-- Keywords are related to the refilled ones, name by name. -/
theorem Keywords.related_refill (up : HandsUp R K) (hR : ∀ s, R s s)
    (keywords : Keywords ι) (news : List (Schema ι))
    (h : List.Forall₂ R (applied keywords) news) :
    AreRelatedEntries K keywords (refill keywords news) := by
  induction keywords generalizing news with
  | nil => exact .nil
  | cons entry rest ih =>
    obtain ⟨name, keyword⟩ := entry
    cases ha : (Shape.ofKeyword name).isApplicator with
    | true =>
      rw [applied_cons ha] at h
      obtain ⟨front, back, rfl, hfront, hback⟩ := exists_parts_of_forall₂ h
      rw [refill_cons ha hfront.length_eq.symm]
      exact .cons ⟨rfl, keyword.related_refill up front hfront⟩ (ih back hback)
    | false =>
      rw [applied_skip ha] at h
      rw [refill_skip ha]
      exact .cons ⟨rfl, up.refl hR keyword⟩ (ih news h)

end SchemaDeref
