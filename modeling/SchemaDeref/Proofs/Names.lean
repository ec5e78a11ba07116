import Mathlib.Data.List.TakeWhile
import SchemaDeref.Proofs.Pointers
import SchemaDeref.Proofs.Requests

/-!
# Names of documents

The part of a URI that is not its fragment holds no `#`: where one stands in the
text, the fragment begins, and a part is written with the characters that may stand
in it, or with hexadecimal digits. So a reference without a fragment is joined to a
text that does not end in `#` (`Uri.join_unmarked`), and a name it is looked up
under, if it stands for itself, is one under which documents are found again
(`Uri.isNormal_of_join`).
-/

namespace SchemaDeref.Uri

/-! ## Encoding -/

/-- A mark that is neither `%` nor a hexadecimal digit. -/
def IsMark (mark : Char) : Prop := mark ≠ '%' ∧ ∀ n, n < 16 → mark ≠ upperHexDigit n

theorem IsMark.hash : IsMark '#' := ⟨by decide, by decide⟩

theorem IsMark.slash : IsMark '/' := ⟨by decide, by decide⟩

theorem IsMark.not_mem_encodeByte {mark : Char} (h : IsMark mark) (b : UInt8) :
    mark ∉ encodeByte b := by
  simp only [encodeByte, List.mem_cons, List.not_mem_nil, or_false, not_or]
  have hbound := b.toNat_lt
  exact ⟨h.1, h.2 _ (by omega), h.2 _ (Nat.mod_lt _ (by decide))⟩

/-- Where a mark is written in hexadecimal digits or does not come up, none is
written. -/
theorem IsMark.not_mem_encodeChar {mark : Char} (hmark : IsMark mark)
    {set : Char → Bool} {c : Char} (h : set mark = true ∨ c ≠ mark) :
    mark ∉ encodeChar set c := by
  rw [encodeChar]
  split
  · rw [List.mem_flatMap]
    rintro ⟨b, _, hb⟩
    exact hmark.not_mem_encodeByte b hb
  · rename_i hset
    rw [List.mem_singleton]
    rintro rfl
    exact h.elim hset fun hne => hne rfl

theorem hash_not_mem_encode {set : Char → Bool} {chars : List Char}
    (h : set '#' = true ∨ '#' ∉ chars) : '#' ∉ (encode set chars).toList := by
  rw [encode, String.toList_ofList, List.mem_flatMap]
  rintro ⟨c, hc, hmem⟩
  exact IsMark.hash.not_mem_encodeChar
    (h.imp_right fun hchars heq => hchars (heq ▸ hc)) hmem

/-- A set without `#` lets just those through that are there. -/
theorem count_hash_encode {set : Char → Bool} (h : set '#' = false)
    (chars : List Char) :
    (encode set chars).toList.count '#' = chars.count '#' := by
  rw [encode, String.toList_ofList]
  induction chars with
  | nil => rfl
  | cons c rest ih =>
    rw [List.flatMap_cons, List.count_append, List.count_cons, ih, Nat.add_comm]
    congr 1
    split
    · rename_i heq
      rw [eq_of_beq heq, encodeChar, h]
      rfl
    · rename_i hne
      refine List.count_eq_zero.mpr (IsMark.hash.not_mem_encodeChar (.inr ?_))
      exact fun heq => hne (beq_iff_eq.mpr heq)

/-! ## Paths -/

namespace Path

/-- No segment that was read holds a `#`. -/
structure State.Clean (state : State) : Prop where
  done : ∀ segment ∈ state.done, '#' ∉ segment.toList
  lead : '#' ∉ state.lead

namespace State.Clean

variable {state : State}

theorem pop (h : state.Clean) : state.pop.Clean := by
  rw [State.pop]
  split
  · exact h
  · rename_i last rest hdone
    split
    · exact h
    · exact ⟨fun s hs => h.done s (hdone ▸ List.mem_cons_of_mem _ hs), h.lead⟩

theorem push (h : state.Clean) {segment : List Char} (hsegment : '#' ∉ segment) :
    (state.push segment).Clean where
  done := by
    rw [State.push]
    exact List.forall_mem_cons.mpr ⟨by rwa [String.toList_ofList], h.done⟩
  lead := List.not_mem_nil

theorem pushLead (h : state.Clean) : state.pushLead.Clean := by
  rw [State.pushLead]
  split
  · exact ⟨h.done, h.lead⟩
  · exact h.push h.lead

theorem endDots (h : state.Clean) (isLast : Bool) : (state.endDots isLast).Clean := by
  rw [State.endDots]
  split
  · exact h.push List.not_mem_nil
  · exact h

theorem close (h : state.Clean) (kind : SchemeKind) {segment : List Char}
    (hsegment : '#' ∉ segment) (isLast : Bool) :
    (state.close kind segment isLast).Clean := by
  have hdrive : '#' ∉ segment.take 1 ++ [':'] := by
    rw [List.mem_append, not_or]
    exact ⟨fun hmem => hsegment (List.mem_of_mem_take hmem), by decide⟩
  rw [State.close]
  split
  · split
    · exact h.pop.endDots isLast
    · exact h.pushLead
  · split
    · exact h.pushLead.endDots isLast
    · split
      · have hpushed := h.push hdrive
        exact ⟨hpushed.done, hpushed.lead⟩
      · exact h.push (by simp [h.lead, hsegment])

end State.Clean

/-- Reading a path stops at a `#`. -/
theorem readFrom_clean (kind : SchemeKind) (state : State) (current : List Char)
    (broken : Bool) (text : List Char) (h : state.Clean) (hcurrent : '#' ∉ current) :
    (readFrom kind state current broken text).1.Clean ∧
      (readFrom kind state current broken text).2.Sublist text := by
  have hclosed : ∀ {state : State} {current : List Char}, state.Clean →
      '#' ∉ current →
      ∀ isLast, (state.close kind current.reverse isLast).Clean :=
    fun h hcurrent isLast => h.close kind (by rwa [List.mem_reverse]) isLast
  fun_induction readFrom kind state current broken text with
  | case1 state current broken => exact ⟨hclosed h hcurrent true, .refl _⟩
  | case2 state current broken c rest hbreak ih =>
    exact (ih h hcurrent).imp_right fun hsub => hsub.cons c
  | case3 state current broken c rest hbreak hslash ih =>
    exact (ih (hclosed h hcurrent false) List.not_mem_nil).imp_right
      fun hsub => hsub.cons c
  | case4 state current broken c rest hbreak hslash hend =>
    exact ⟨hclosed h hcurrent true, .refl _⟩
  | case5 state current broken c rest hbreak hslash hend written hdrive ih =>
    have hwritten : '#' ∉ written := by
      rw [List.mem_reverse]
      exact IsMark.hash.not_mem_encodeChar (.inl (by decide))
    have hsplit : (state.splitDrive current).Clean := by
      have hpushed : (state.push (state.lead ++ current.reverse)).Clean :=
        h.push (by simp [h.lead, hcurrent])
      exact ⟨hpushed.done, hpushed.lead⟩
    exact (ih hsplit hwritten).imp_right fun hsub => hsub.cons c
  | case6 state current broken c rest hbreak hslash hend written hdrive ih =>
    have hwritten : '#' ∉ written ++ current := by
      rw [List.mem_append, List.mem_reverse, not_or]
      exact ⟨IsMark.hash.not_mem_encodeChar (.inl (by decide)), hcurrent⟩
    exact (ih h hwritten).imp_right fun hsub => hsub.cons c

theorem dropEmptyFront_subset (segments : List String) :
    dropEmptyFront segments ⊆ segments := by
  fun_induction dropEmptyFront segments with
  | case1 s rest ih => exact List.Subset.trans ih (List.subset_cons_self _ _)
  | case2 segments _ => exact List.Subset.refl _

/-- No part of a folder holds a `#`. -/
structure Folder.Clean (folder : Folder) : Prop where
  segments : ∀ segment ∈ folder.segments, '#' ∉ segment.toList
  lead : '#' ∉ folder.lead

theorem Folder.Clean.root : Folder.root.Clean :=
  ⟨fun _ h => absurd h List.not_mem_nil, List.not_mem_nil⟩

theorem folder_clean (kind : SchemeKind) {segments : List String}
    (h : ∀ segment ∈ segments, '#' ∉ segment.toList) :
    (folder kind segments).Clean := by
  rw [folder]
  split
  · rename_i last hlast
    have hfront : ∀ segment ∈ segments.dropLast, '#' ∉ segment.toList :=
      fun s hs => h s (List.dropLast_subset _ hs)
    split
    · exact ⟨hfront, h last (List.mem_of_getLast? hlast)⟩
    · exact ⟨hfront, List.not_mem_nil⟩
  · exact .root

theorem read_clean (kind : SchemeKind) {folder : Folder} (h : folder.Clean)
    (text : List Char) :
    (∀ segment ∈ (read kind folder text).segments, '#' ∉ segment.toList) ∧
      (read kind folder text).rest.Sublist text := by
  have hfrom :=
    readFrom_clean kind ⟨folder.segments.reverse, folder.lead, false, false⟩
      [] false text
    ⟨fun s hs => h.segments s (List.mem_reverse.mp hs), h.lead⟩ List.not_mem_nil
  refine ⟨fun s hs => hfrom.1.done s ?_, hfrom.2⟩
  simp only [read] at hs
  split at hs
  · exact List.mem_reverse.mp (dropEmptyFront_subset _ hs)
  · exact List.mem_reverse.mp hs

end Path

/-! ## Hosts -/

/-- No domain name holds a `#`. -/
def Host.Clean : Host → Prop
  | .domain name => '#' ∉ name.toList
  | .ipv4 _ | .ipv6 _ => True

namespace Host

theorem Clean.empty : Host.empty.Clean := List.not_mem_nil

theorem bracketed?_clean {chars : List Char} {host : Host}
    (h : bracketed? chars = some host) :
    host.Clean := by
  rw [bracketed?] at h
  split at h
  · obtain ⟨groups, -, rfl⟩ := Option.map_eq_some_iff.mp h
    trivial
  · cases h

theorem special?_clean {chars : List Char} {host : Host}
    (h : special? chars = some host) :
    host.Clean := by
  rw [special?.eq_def] at h
  split at h
  · exact bracketed?_clean h
  · simp only [Option.bind_eq_bind, Option.bind_eq_some_iff] at h
    obtain ⟨plain, -, name, -, h⟩ := h
    split at h
    · cases h
    · rename_i hallowed
      split at h
      · obtain ⟨address, -, rfl⟩ := Option.map_eq_some_iff.mp h
        trivial
      · cases h
        rw [Clean, String.toList_ofList]
        intro hmem
        refine hallowed ?_
        simp only [Bool.or_eq_true, List.any_eq_true]
        exact .inr ⟨'#', hmem, by decide⟩

theorem plain?_clean {chars : List Char} {host : Host}
    (h : plain? chars = some host) :
    host.Clean := by
  rw [plain?.eq_def] at h
  split at h
  · exact bracketed?_clean h
  · split at h
    · cases h
    · rename_i hallowed
      cases h
      refine hash_not_mem_encode (.inr fun hmem => hallowed ?_)
      exact List.any_eq_true.mpr ⟨'#', hmem, by decide⟩

end Host

/-! ## Parts of a URI -/

def Hierarchy.Clean : Hierarchy → Prop
  | .flat text => '#' ∉ text.toList
  | .segments list => ∀ segment ∈ list, '#' ∉ segment.toList

theorem Hierarchy.Clean.toList {path : Hierarchy} (h : path.Clean) :
    ∀ segment ∈ path.toList, '#' ∉ segment.toList := by
  cases path with
  | flat text => exact fun _ hs => absurd hs List.not_mem_nil
  | segments segments => exact h

def Authority.Clean (authority : Option Authority) : Prop :=
  ∀ a ∈ authority, a.host.Clean

theorem Authority.Clean.none : Authority.Clean none := fun _ h => by cases h

theorem Authority.Clean.some {authority : Authority} (h : authority.host.Clean) :
    Authority.Clean (some authority) := by
  rintro a ⟨⟩
  exact h

/-- No `#` stands where a URI may end before its fragment. -/
structure Clean (uri : Uri) : Prop where
  authority : Authority.Clean uri.authority
  path : uri.path.Clean
  query : ∀ query ∈ uri.query, '#' ∉ query.toList

/-- What is known of a URI that was read from a text: one `#` of the text is not
part of the fragment, but stands in front of it. -/
structure IsRead (text : List Char) (uri : Uri) : Prop where
  clean : uri.Clean
  fragment : ∀ fragment ∈ uri.fragment, fragment.toList.count '#' < text.count '#'

namespace IsRead

variable {text text' : List Char} {uri : Uri}

theorem mono (h : IsRead text uri) (hsub : text.Sublist text') : IsRead text' uri :=
  ⟨h.clean, fun fragment hfragment => (h.fragment fragment hfragment).trans_le
    (hsub.count_le '#')⟩

/-- Without a `#` there is no fragment. -/
theorem fragment_eq_none (h : IsRead text uri) (hhash : '#' ∉ text) :
    uri.fragment = none := by
  cases hfragment : uri.fragment with
  | none => rfl
  | some fragment =>
    have hlt := h.fragment fragment hfragment
    rw [List.count_eq_zero.mpr hhash] at hlt
    exact absurd hlt (Nat.not_lt_zero _)

/-- The base without its fragment. -/
theorem withoutFragment {base : Uri} (h : base.Clean) :
    IsRead text { base with fragment := none } :=
  ⟨⟨h.authority, h.path, h.query⟩, fun _ hfragment => by cases hfragment⟩

end IsRead

theorem next?_sublist {text rest : List Char} {c : Char}
    (h : next? text = some (c, rest)) :
    (c :: rest).Sublist text := by
  fun_induction next? text with
  | case1 => cases h
  | case2 d tail hbreak ih => exact (ih h).cons d
  | case3 d tail hbreak =>
    cases h
    exact .refl _

theorem withoutBreaks_sublist (text : List Char) :
    (withoutBreaks text).Sublist text :=
  List.filter_sublist

theorem count_readFragment_lt {text rest : List Char}
    (h : ('#' :: rest).Sublist text) :
    (readFragment rest).toList.count '#' < text.count '#' :=
  calc (readFragment rest).toList.count '#'
    _ = (withoutBreaks rest).count '#' := count_hash_encode (by decide) _
    _ ≤ rest.count '#' := (withoutBreaks_sublist rest).count_le '#'
    _ < ('#' :: rest).count '#' := by
      rw [List.count_cons_self]; exact Nat.lt_succ_self _
    _ ≤ text.count '#' := h.count_le '#'

/-- The base with another fragment, whose mark the text holds. -/
theorem IsRead.withFragment {base : Uri} (hbase : base.Clean) {text rest : List Char}
    (h : ('#' :: rest).Sublist text) :
    IsRead text { base with fragment := some (readFragment rest) } := by
  refine ⟨⟨hbase.authority, hbase.path, hbase.query⟩, ?_⟩
  rintro _ ⟨⟩
  exact count_readFragment_lt h

theorem readTail_clean (kind : SchemeKind) (text : List Char) :
    (∀ query ∈ (readTail kind text).1, '#' ∉ query.toList) ∧
      ∀ fragment ∈ (readTail kind text).2, fragment.toList.count '#' <
        text.count '#' := by
  rw [readTail]
  split
  · rename_i rest heq
    refine ⟨fun _ hquery => (by cases hquery), ?_⟩
    rintro _ ⟨⟩
    exact count_readFragment_lt (next?_sublist heq)
  · rename_i rest heq
    have hquery : ∀ chars : List Char, '#' ∉ (encode
        (if kind.isSpecial then encodedInSpecialQuery else encodedInQuery)
        chars).toList := by
      refine fun chars => hash_not_mem_encode (.inl ?_)
      split <;> decide
    dsimp only
    split
    · rename_i mark fragment hdrop
      have hmark : mark = '#' := by
        have hhead := List.head_dropWhile_not (· != '#') (l := rest) (by simp [hdrop])
        simpa [hdrop] using hhead
      have hsub : ('#' :: fragment).Sublist rest := by
        rw [← hmark, ← hdrop]
        exact List.dropWhile_sublist _
      refine ⟨?_, ?_⟩
      · rintro query ⟨⟩
        exact hquery _
      · rintro _ ⟨⟩
        exact count_readFragment_lt ((hsub.cons '?').trans (next?_sublist heq))
    · refine ⟨?_, fun _ hfragment => (by cases hfragment)⟩
      rintro query ⟨⟩
      exact hquery _
  · exact ⟨fun _ hquery => (by cases hquery), fun _ hfragment => (by cases hfragment)⟩

section

variable {scheme : String} {authority : Option Authority}

theorem withTail_isRead (hauthority : Authority.Clean authority) {path : Hierarchy}
    (hpath : path.Clean) (rest : List Char) :
    IsRead rest (withTail scheme authority path rest) := by
  have htail := readTail_clean (.ofScheme scheme) rest
  exact ⟨⟨hauthority, hpath, htail.1⟩, htail.2⟩

theorem withReading_isRead (hauthority : Authority.Clean authority)
    (kind : SchemeKind) {folder : Path.Folder} (hfolder : folder.Clean)
    (text : List Char) :
    IsRead text
      (withTail scheme authority (.segments (Path.read kind folder text).segments)
        (Path.read kind folder text).rest) := by
  obtain ⟨hsegments, hrest⟩ := Path.read_clean kind hfolder text
  have hpath : (Hierarchy.segments (Path.read kind folder text).segments).Clean :=
    hsegments
  exact (withTail_isRead hauthority hpath _).mono hrest

theorem withPath_isRead (hauthority : Authority.Clean authority)
    {folder : Path.Folder} (hfolder : folder.Clean) (text : List Char) :
    IsRead text (withPath scheme authority folder text) :=
  withReading_isRead hauthority (.ofScheme scheme) hfolder text

theorem withFlatPath_isRead (text : List Char) :
    IsRead text (withFlatPath scheme text) := by
  have hpath : (Hierarchy.flat (encode isControlOrWide
      (text.takeWhile fun c => !(c == '?' || c == '#')))).Clean := by
    refine hash_not_mem_encode (.inr fun hmem => ?_)
    exact absurd (List.mem_takeWhile_imp hmem) (by decide)
  exact (withTail_isRead .none hpath _).mono (List.dropWhile_sublist _)

end

/-! ## Authorities -/

theorem splitCredentials_sublist (text : List Char) :
    (splitCredentials text).2.Sublist text := by
  rw [splitCredentials]
  split
  · rw [← List.reverse_sublist, List.reverse_reverse]
    exact List.takeWhile_sublist _
  · exact .refl _

theorem splitHost_sublist (inBrackets : Bool) (text : List Char) :
    (splitHost inBrackets text).2.Sublist text := by
  fun_induction splitHost inBrackets text with
  | case1 => exact .refl _
  | case2 => exact .refl _
  | case3 inBrackets c rest _ host after heq ih =>
    rw [heq] at ih
    exact ih.cons c

theorem readPort?_sublist {scheme : String} {text rest : List Char}
    {port : Option Nat} (h : readPort? scheme text = some (port, rest)) :
    rest.Sublist text := by
  have hdrop : (text.dropWhile Char.isDigit).Sublist text := List.dropWhile_sublist _
  rw [readPort?] at h
  split at h
  · cases h
  · split at h
    · cases h
      exact hdrop
    · cases h
      exact hdrop

theorem readAuthority?_clean {scheme : String} {text back : List Char} {isLast : Bool}
    {authority : Authority}
    (h : readAuthority? scheme text isLast = some (authority, back)) :
    authority.host.Clean ∧ back.Sublist text := by
  -- both kinds of host are followed by the same
  have hfollows : ∀ (isSpecial : Bool) (first second : Option Host)
      (next : Host → Option (Authority × List Char)),
      (if isSpecial then first >>= next else second >>= next) =
        (if isSpecial then first else second) >>= next := by
    intro isSpecial first second next
    cases isSpecial <;> rfl
  simp only [readAuthority?] at h
  rw [hfollows] at h
  obtain ⟨host, hhost, h⟩ := Option.bind_eq_some_iff.mp h
  have hclean : host.Clean := by
    split at hhost
    · exact Host.special?_clean hhost
    · exact Host.plain?_clean hhost
  split at h
  · cases h
  · obtain ⟨⟨port, rest⟩, hport, h⟩ := Option.bind_eq_some_iff.mp h
    have hrest : rest.Sublist text :=
      ((readPort?_sublist hport).trans (List.drop_sublist 1 _)).trans
        ((splitHost_sublist false _).trans (splitCredentials_sublist text))
    dsimp only at h
    split at h
    · cases h
    · split at h
      · cases h
      · cases h
        exact ⟨hclean, hrest⟩

theorem Hierarchy.Clean.root (kind : SchemeKind) :
    (Hierarchy.segments (if kind.isSpecial then [""] else [])).Clean := by
  intro segment hsegment
  split at hsegment
  · obtain rfl := List.mem_singleton.mp hsegment
    exact List.not_mem_nil
  · cases hsegment

theorem readAfterSlashes?_isRead {scheme : String} {text : List Char} {uri : Uri}
    (h : readAfterSlashes? scheme text = some uri) : IsRead text uri := by
  obtain ⟨⟨authority, back⟩, hauthority, h⟩ := Option.bind_eq_some_iff.mp h
  obtain ⟨hhost, hback⟩ := readAuthority?_clean hauthority
  have hclean := Authority.Clean.some hhost
  have hsub : (back ++ text.dropWhile fun c =>
    !endsAuthority (.ofScheme scheme) c).Sublist text := by
    have happend :=
      hback.append
        (.refl (text.dropWhile fun c => !endsAuthority (.ofScheme scheme) c))
    rwa [List.takeWhile_append_dropWhile] at happend
  dsimp only at h
  split at h
  · cases h
    exact ⟨⟨hclean, .root _, fun _ hquery => by cases hquery⟩, fun _ hfragment => by
      cases hfragment⟩
  · rename_i c after heq
    rw [heq] at hsub
    split at h
    · cases h
      exact (withPath_isRead hclean .root _).mono
        ((List.sublist_cons_self _ _).trans hsub)
    · split at h
      · cases h
        exact (withPath_isRead hclean .root _).mono hsub
      · cases h
        have hpath : (Hierarchy.segments []).Clean :=
          fun _ hsegment => by cases hsegment
        exact (withTail_isRead hclean hpath _).mono hsub

/-! ## Files -/

theorem readFileHost?_isRead {text : List Char} {uri : Uri}
    (h : readFileHost? text = some uri) :
    IsRead text uri := by
  have hnone : Authority.Clean (some (.ofHost .empty)) := .some Host.Clean.empty
  simp only [readFileHost?] at h
  split at h
  · cases h
    exact withPath_isRead hnone .root _
  · obtain ⟨host, hhost, h⟩ := Option.bind_eq_some_iff.mp h
    have hdrop : (text.dropWhile fun c =>
      !endsAuthority (.ofScheme "file") c).Sublist text :=
      List.dropWhile_sublist _
    split at h
    · cases h
      exact (withPath_isRead hnone .root _).mono hdrop
    · cases h
      have hpath : ∀ {reading : Path.Reading},
          Host.Clean (if reading.hasDrive then .empty else host) := by
        intro reading
        split
        · exact Host.Clean.empty
        · exact Host.special?_clean hhost
      refine (withReading_isRead (.some hpath) _ .root _).mono (.trans ?_ hdrop)
      split
      · rename_i c after heq
        rw [heq]
        split
        · exact List.sublist_cons_self _ _
        · exact .refl _
      · exact List.nil_sublist _

theorem fileRoot_clean {base : Option Uri} (h : ∀ uri ∈ base, uri.Clean)
    (rest : List Char) :
    (fileRoot base rest).1.Clean ∧ (fileRoot base rest).2.Clean := by
  cases base with
  | none => exact ⟨Host.Clean.empty, .root⟩
  | some base =>
    have hbase := h base rfl
    have hhost : ((base.authority.map Authority.host).getD .empty).Clean := by
      cases hauthority : base.authority with
      | none => exact Host.Clean.empty
      | some authority => exact hbase.authority authority hauthority
    simp only [fileRoot]
    split
    · exact ⟨Host.Clean.empty, .root⟩
    · split
      · rename_i first hfirst
        split
        · refine ⟨Host.Clean.empty, fun s hs => ?_, List.not_mem_nil⟩
          obtain rfl := List.mem_singleton.mp hs
          exact hbase.path.toList s (List.mem_of_head? hfirst)
        · exact ⟨hhost, .root⟩
      · exact ⟨hhost, .root⟩

theorem readFile?_isRead {base : Option Uri} (hbase : ∀ uri ∈ base, uri.Clean)
    {text : List Char} {uri : Uri} (h : readFile? base text = some uri) :
    IsRead text uri := by
  have halone : IsRead text (withPath "file" (some (.ofHost .empty)) .root text) :=
    withPath_isRead (.some Host.Clean.empty) .root text
  simp only [readFile?] at h
  split at h
  · rename_i c rest hnext
    have hfront := next?_sublist hnext
    have hrest := (List.sublist_cons_self c rest).trans hfront
    split at h
    · obtain ⟨hhost, hfolder⟩ := fileRoot_clean hbase rest
      have honce :
          IsRead text (withPath "file" (some (.ofHost (fileRoot base rest).1))
          (fileRoot base rest).2 rest) :=
            (withPath_isRead (.some hhost) hfolder rest).mono hrest
      split at h
      · rename_i d rest' hnext'
        split at h
        · have hrest' := (List.sublist_cons_self d rest').trans (next?_sublist hnext')
          exact ((readFileHost?_isRead h).mono hrest').mono hrest
        · cases h
          exact honce
      · cases h
        exact honce
    · cases base with
      | none =>
        cases h
        exact halone
      | some base =>
        have hclean := hbase base rfl
        dsimp only at h
        split at h
        · cases h
          exact withTail_isRead hclean.authority hclean.path text
        · split at h
          · rename_i heq
            cases h
            exact .withFragment hclean (eq_of_beq heq ▸ hfront)
          · split at h
            · cases h
              exact halone
            · cases h
              exact withPath_isRead hclean.authority
                (Path.folder_clean _ hclean.path.toList) text
  · cases base with
    | none =>
      cases h
      exact halone
    | some base =>
      cases h
      exact .withoutFragment (hbase base rfl)

/-! ## Relative and absolute texts -/

theorem readRelative?_isRead {base : Uri} (hbase : base.Clean) {text : List Char}
    {uri : Uri} (h : readRelative? base text = some uri) : IsRead text uri := by
  simp only [readRelative?.eq_def] at h
  split at h
  · cases h
    exact .withoutFragment hbase
  · rename_i c rest
    split at h
    · cases h
      exact withTail_isRead hbase.authority hbase.path _
    · split at h
      · rename_i heq
        cases h
        exact .withFragment hbase (eq_of_beq heq ▸ .refl _)
      · split at h
        · split at h
          · rename_i rest' heq
            rw [heq]
            exact (readAfterSlashes?_isRead h).mono
              (((List.Sublist.refl _).cons _).cons _)
          · split at h
            · exact (readAfterSlashes?_isRead h).mono (List.dropWhile_sublist _)
            · cases h
              exact (withPath_isRead hbase.authority .root rest).mono
                (List.sublist_cons_self _ _)
        · cases h
          exact withPath_isRead hbase.authority
            (Path.folder_clean _ hbase.path.toList) _

theorem readWithScheme?_isRead {base : Option Uri} (hbase : ∀ uri ∈ base, uri.Clean)
    {scheme : String} {text : List Char} {uri : Uri}
    (h : readWithScheme? base scheme text = some uri) :
    IsRead text uri := by
  have hafter : ∀ {uri}, readAfterSlashes? scheme (text.dropWhile fun c => c ==
      '/' || c == '\\') =
      some uri → IsRead text uri :=
    fun h => (readAfterSlashes?_isRead h).mono (List.dropWhile_sublist _)
  simp only [readWithScheme?] at h
  split at h
  · split at h
    · rename_i base
      split at h
      · exact readRelative?_isRead (hbase base rfl) h
      · exact hafter h
    · exact hafter h
  · split at h
    · exact (readAfterSlashes?_isRead h).mono (((List.Sublist.refl _).cons _).cons _)
    · cases h
      exact (withPath_isRead .none .root _).mono (List.sublist_cons_self _ _)
    · cases h
      exact withFlatPath_isRead text

theorem trimEnds_sublist (text : String) : (trimEnds text).Sublist text.toList := by
  rw [trimEnds, ← List.reverse_sublist, List.reverse_reverse]
  exact (List.dropWhile_sublist _).trans (List.dropWhile_sublist _).reverse

theorem splitScheme?_sublist {text rest : List Char} {scheme : String}
    (h : splitScheme? text = some (scheme, rest)) : rest.Sublist text := by
  rw [splitScheme?.eq_def] at h
  split at h
  · split at h
    · split at h
      · rename_i heq
        cases h
        exact (List.sublist_cons_self _ _).trans (heq ▸ List.dropWhile_sublist _)
      · cases h
    · cases h
  · cases h

theorem read?_isRead {base : Option Uri} (hbase : ∀ uri ∈ base, uri.Clean)
    {text : String} {uri : Uri} (h : read? base text = some uri) :
    IsRead text.toList uri := by
  refine IsRead.mono ?_ (trimEnds_sublist text)
  simp only [read?.eq_def] at h
  split at h
  · rename_i scheme rest hscheme
    refine IsRead.mono ?_ (splitScheme?_sublist hscheme)
    split at h
    · refine readFile?_isRead (fun other hother => hbase other ?_) h
      exact (Option.filter_eq_some_iff.mp hother).1
    · exact (readWithScheme?_isRead hbase h).mono (withoutBreaks_sublist rest)
  · cases h
  · rename_i base _
    have hclean := hbase base rfl
    split at h
    · rename_i hnext
      cases h
      exact .withFragment hclean (next?_sublist hnext)
    · cases h
    · split at h
      · exact readFile?_isRead hbase h
      · exact (readRelative?_isRead hclean h).mono (withoutBreaks_sublist _)

/-! ## Texts that end in the mark of a fragment -/

/-- That a text does not end in the mark of an empty fragment. -/
def Unmarked (text : String) : Prop := text.toList.getLast? ≠ some '#'

namespace Unmarked

variable {a b : String}

theorem of_not_mem (h : '#' ∉ a.toList) : Unmarked a :=
  fun hlast => h (List.mem_of_getLast? hlast)

theorem resourceName_eq (h : Unmarked a) : resourceName a = a := by
  rw [resourceName, dropLastChar, if_neg h, String.ofList_toList]

theorem append (ha : Unmarked a) (hb : Unmarked b) : Unmarked (a ++ b) := by
  rw [Unmarked] at hb
  rw [Unmarked, String.toList_append, List.getLast?_append]
  cases hlast : b.toList.getLast? with
  | none => exact ha
  | some c =>
    rw [hlast] at hb
    exact hb

/-- What stands before a text that is not empty does not matter. -/
theorem append_right (a : String) {b : String} (hne : b ≠ "") (hb : Unmarked b) :
    Unmarked (a ++ b) := by
  rw [Unmarked] at hb
  rw [Unmarked, String.toList_append, List.getLast?_append]
  cases hlast : b.toList.getLast? with
  | none =>
    exact absurd (String.toList_eq_nil_iff.mp (List.getLast?_eq_none_iff.mp hlast))
      hne
  | some c =>
    rw [hlast] at hb
    exact hb

theorem digits (n : Nat) : Unmarked (toString n) := by
  refine of_not_mem fun hmem => ?_
  have hdigit := Pointer.isDigit_toString hmem
  cases hdigit

theorem intercalate {separator : String} (hseparator : Unmarked separator)
    {texts : List String} (h : ∀ text ∈ texts, Unmarked text) :
    Unmarked (separator.intercalate texts) := by
  induction texts with
  | nil => exact of_not_mem List.not_mem_nil
  | cons text rest ih =>
    obtain ⟨htext, hrest⟩ := List.forall_mem_cons.mp h
    cases rest with
    | nil => exact String.intercalate_singleton ▸ htext
    | cons next rest =>
      rw [String.intercalate_cons_cons]
      exact (htext.append hseparator).append (ih hrest)

theorem join {texts : List String} (h : ∀ text ∈ texts, Unmarked text) :
    Unmarked (String.join texts) := by
  induction texts with
  | nil => exact of_not_mem List.not_mem_nil
  | cons text rest ih =>
    obtain ⟨htext, hrest⟩ := List.forall_mem_cons.mp h
    rw [String.join_cons]
    exact htext.append (ih hrest)

end Unmarked

theorem Host.Clean.unmarked {host : Host} (h : host.Clean) : Unmarked host.text := by
  cases host with
  | domain name => exact .of_not_mem h
  | ipv4 address =>
    refine .intercalate (.of_not_mem (by decide)) fun text htext => ?_
    obtain ⟨i, -, rfl⟩ := List.mem_map.mp htext
    exact .digits _
  | ipv6 groups => exact .append_right _ (by decide) (.of_not_mem (by decide))

theorem credentials_unmarked (username password : String) :
    Unmarked (credentials username password) := by
  rw [credentials]
  split
  · exact .of_not_mem List.not_mem_nil
  · exact .append_right _ (by decide) (.of_not_mem (by decide))

theorem Authority.Clean.unmarked {authority : Option Authority}
    (h : Authority.Clean authority) :
    Unmarked ((authority.map Authority.text).getD "") := by
  cases authority with
  | none => exact .of_not_mem List.not_mem_nil
  | some authority =>
    refine Unmarked.append (((Unmarked.of_not_mem (by decide)).append
      (credentials_unmarked _ _)).append (h authority rfl).unmarked) ?_
    split
    · exact (Unmarked.of_not_mem (by decide)).append (.digits _)
    · exact .of_not_mem List.not_mem_nil

theorem Clean.pathText_unmarked {uri : Uri} (h : uri.Clean) :
    Unmarked uri.pathText := by
  have hpath := h.path
  rw [pathText]
  split
  · rename_i text heq
    rw [heq] at hpath
    exact .of_not_mem hpath
  · rename_i segments heq
    rw [heq] at hpath
    refine Unmarked.append ?_ (.join fun text htext => ?_)
    · split
      · exact .of_not_mem (by decide)
      · exact .of_not_mem List.not_mem_nil
    · obtain ⟨segment, hsegment, rfl⟩ := List.mem_map.mp htext
      exact (Unmarked.of_not_mem (by decide)).append
        (.of_not_mem (hpath segment hsegment))

theorem Clean.unmarked {uri : Uri} (h : uri.Clean) (hfragment : uri.fragment = none) :
    Unmarked uri.text := by
  have hfront : Unmarked (uri.scheme ++ ":") :=
    .append_right _ (by decide) (.of_not_mem (by decide))
  have hquery : Unmarked ((uri.query.map ("?" ++ ·)).getD "") := by
    cases hquery : uri.query with
    | none => exact .of_not_mem List.not_mem_nil
    | some query =>
      exact (Unmarked.of_not_mem (by decide)).append
        (.of_not_mem (h.query query hquery))
  rw [text, hfragment]
  exact (((hfront.append h.authority.unmarked).append h.pathText_unmarked).append
    hquery).append
    (.of_not_mem List.not_mem_nil)

/-! ## Names -/

/-- A reference is joined to what was read from it, or stands for itself. -/
theorem join_cases (base : Option String) (reference : String) :
    join base reference = reference ∨
      ∃ uri, IsRead reference.toList uri ∧ join base reference = uri.text := by
  simp only [join]
  split
  · rename_i uri hjoined
    refine .inr ⟨uri, ?_, rfl⟩
    cases base with
    | none => exact read?_isRead (fun _ hother => by cases hother) hjoined
    | some base =>
      obtain ⟨other, hother, hjoined⟩ := Option.bind_eq_some_iff.mp hjoined
      refine read?_isRead ?_ hjoined
      rintro _ ⟨⟩
      exact (read?_isRead (fun _ hother => by cases hother) hother).clean
  · exact .inl rfl

/-- A reference without a fragment is joined to a text that does not end in the mark
of one. -/
theorem join_unmarked (base : Option String) {reference : String}
    (h : '#' ∉ reference.toList) :
    Unmarked (join base reference) := by
  rcases join_cases base reference with hjoin | ⟨uri, huri, hjoin⟩
  · rw [hjoin]
    exact .of_not_mem h
  · rw [hjoin]
    exact huri.clean.unmarked (huri.fragment_eq_none h)

/-- That a text holds at most one mark of a fragment, as every well-formed URI does. -/
def HasOneMark (text : String) : Prop := text.toList.count '#' ≤ 1

instance (text : String) : Decidable (HasOneMark text) :=
  inferInstanceAs (Decidable (text.toList.count '#' ≤ 1))

theorem HasOneMark.resourceName_unmarked {text : String} (h : HasOneMark text) :
    Unmarked (resourceName text) := by
  by_cases hlast : text.toList.getLast? = some '#'
  · obtain ⟨front, hfront⟩ := List.getLast?_eq_some_iff.mp hlast
    have hname : resourceName text = String.ofList front := by
      rw [resourceName, dropLastChar, if_pos hlast, hfront, List.dropLast_concat]
    have hcount : front.count '#' = 0 := by
      rw [HasOneMark, hfront, List.count_append, List.count_singleton_self] at h
      omega
    rw [hname]
    exact .of_not_mem
      (by rw [String.toList_ofList]; exact List.count_eq_zero.mp hcount)
  · rw [Unmarked.resourceName_eq hlast]
    exact hlast

/-- What is read from a text with one mark ends in it only if the fragment is empty. -/
theorem IsRead.resourceName_unmarked {text : String} (htext : HasOneMark text)
    {uri : Uri} (h : IsRead text.toList uri) : Unmarked (resourceName uri.text) := by
  have hclean : { uri with fragment := none }.Clean :=
    ⟨h.clean.authority, h.clean.path, h.clean.query⟩
  have hfront := hclean.unmarked rfl
  cases hfragment : uri.fragment with
  | none =>
    have huri := h.clean.unmarked hfragment
    rwa [huri.resourceName_eq]
  | some fragment =>
    have hsplit : uri.text = { uri with fragment := none }.text ++
        ("#" ++ fragment) := by
      simp [Uri.text, hfragment, pathText, String.append_assoc]
    have hhash : '#' ∉ fragment.toList := by
      have hlt := h.fragment fragment hfragment
      rw [HasOneMark] at htext
      exact List.count_eq_zero.mp (by omega)
    by_cases hempty : fragment = ""
    · have hname : resourceName uri.text = { uri with fragment := none }.text := by
        rw [hsplit, hempty, resourceName, dropLastChar, String.toList_append,
          if_pos (by simp)]
        simp
      rwa [hname]
    · have huri : Unmarked uri.text := by
        rw [hsplit, ← String.append_assoc]
        exact .append_right _ hempty (.of_not_mem hhash)
      rwa [huri.resourceName_eq]

/-- A text with no more than one mark has a name that does not end in one. -/
theorem joinName_unmarked (base : Option String) {reference : String}
    (h : HasOneMark reference) :
    Unmarked (joinName base reference) := by
  rw [joinName]
  rcases join_cases base reference with hjoin | ⟨uri, huri, hjoin⟩
  · rw [hjoin]
    exact h.resourceName_unmarked
  · rw [hjoin]
    exact huri.resourceName_unmarked h

theorem hash_not_mem_of_parts {reference uri : String}
    (h : (ReferenceParts.ofString reference).uri = some uri) : '#' ∉ uri.toList := by
  have hfront : ∀ {chars : List Char}, ReferenceParts.nonEmpty
      (chars.takeWhile (· != '#')) = some uri →
      '#' ∉ uri.toList := by
    intro chars h
    rw [ReferenceParts.nonEmpty] at h
    split at h
    · cases h
    · cases h
      rw [String.toList_ofList]
      intro hmem
      exact absurd (List.mem_takeWhile_imp hmem) (by decide)
  rw [ReferenceParts.ofString] at h
  split at h
  · exact hfront h
  · exact hfront h

/-- A document that is looked up under a name that stands for itself is found under
it. -/
theorem isNormal_of_join {base : Option String} {reference name : String}
    (hreference : '#' ∉ reference.toList) (hname : name = joinName base reference)
    (hself : join none name = name) : IsNormal name := by
  have hunmarked : Unmarked name := by
    have hjoin := join_unmarked base hreference
    rwa [hname, joinName, hjoin.resourceName_eq]
  rw [IsNormal, joinName, hself, hunmarked.resourceName_eq, hunmarked.resourceName_eq]

end SchemaDeref.Uri
