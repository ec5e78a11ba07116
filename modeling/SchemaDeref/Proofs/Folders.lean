import SchemaDeref.Files.Folder
import SchemaDeref.Proofs.Names

/-!
# Files inside a folder

A folder serves a URI by the file with the name of its last segment. That name has
no slash and is no dots, since dots are taken away where a path is read
(`Path.read_ordinary`), so the file stands directly in the folder. A text that is no
URI is taken as a path as it stands: the file lies in the folder whenever no part of
the text is two dots and the text does not begin in the root (`Folder.path?_isInside`).
-/

namespace SchemaDeref

/-! ## Parts of paths -/

namespace Path

theorem parts_append_slash (front back : String) :
    parts (front ++ "/" ++ back) = parts front ++ parts back := by
  have hslash : (front ++ "/" ++ back).toList = front.toList ++ '/' ::
      back.toList := by
    simp [String.toList_append]
  rw [parts, hslash, Text.splitOn_append, List.filter_append, List.map_append]
  rfl

/-- That a path leads from a directory down through names: it begins in the root if
the directory does, and its parts are those of the directory and then the names. -/
structure Extends (directory path : String) (names : List String) : Prop where
  isAbsolute : isAbsolute path = isAbsolute directory
  parts : parts path = parts directory ++ names

/-- That a path leads from a directory through one or more names, none of which is
the directory above. -/
def IsInside (directory path : String) : Prop :=
  ∃ names, Extends directory path names ∧ names ≠ [] ∧ ".." ∉ names

theorem Extends.isInside_iff {directory path : String} {names : List String}
    (h : Extends directory path names) :
    IsInside directory path ↔ names ≠ [] ∧ ".." ∉ names := by
  refine ⟨?_, fun hnames => ⟨names, h, hnames⟩⟩
  rintro ⟨others, hothers, hordinary⟩
  obtain rfl : others = names :=
    List.append_cancel_left (hothers.parts.symm.trans h.parts)
  exact hordinary

theorem join_of_isAbsolute {path : String} (directory : String)
    (h : isAbsolute path = true) :
    join directory path = path := by
  rw [join, h, Bool.true_or, if_pos rfl]

/-- A path that does not begin in the root goes on from the directory it is joined
to. -/
theorem extends_join {directory path : String} (h : isAbsolute path = false) :
    Extends directory (join directory path) (parts path) := by
  rw [join, h, Bool.false_or]
  split
  · rename_i hempty
    rw [String.isEmpty_iff] at hempty
    subst hempty
    exact ⟨h, rfl⟩
  · rename_i hnonempty
    obtain ⟨c, chars, hchars⟩ : ∃ c chars, directory.toList = c :: chars := by
      refine List.exists_cons_of_ne_nil fun hnil => hnonempty ?_
      rw [String.isEmpty_iff]
      exact String.toList_eq_nil_iff.mp hnil
    have hhead : ∀ back : String, isAbsolute (directory ++ back) =
        isAbsolute directory := by
      intro back
      simp [isAbsolute, String.toList_append, hchars]
    split
    · -- the slash is there already, with an empty piece behind it
      rename_i hslash
      obtain ⟨front, hfront⟩ := List.getLast?_eq_some_iff.mp (eq_of_beq hslash)
      have hdirectory : directory = String.ofList front ++ "/" := by
        rw [← String.toList_inj, hfront, String.toList_append, String.toList_ofList]
        rfl
      have hparts : parts directory = parts (String.ofList front) := by
        rw [hdirectory, ← String.append_empty (s := String.ofList front ++ "/"),
          parts_append_slash]
        exact List.append_nil _
      refine ⟨hhead path, ?_⟩
      rw [hparts, hdirectory, parts_append_slash]
    · refine ⟨?_, parts_append_slash directory path⟩
      rw [String.append_assoc]
      exact hhead _

/-- A name without slashes that is no dot is the only part of itself. -/
theorem parts_of_not_mem {name : String} (hslash : '/' ∉ name.toList)
    (hne : name ≠ "") (hdot : name ≠ ".") : parts name = [name] := by
  have hpart : isPart name.toList = true := by
    simp only [isPart, Bool.and_eq_true, bne_iff_ne]
    refine ⟨fun hnil => hne (String.toList_eq_nil_iff.mp hnil), fun heq => hdot ?_⟩
    exact String.toList_inj.mp heq
  rw [parts, Text.splitOn_of_not_mem hslash, List.filter_cons_of_pos hpart,
    List.filter_nil, List.map_singleton, String.ofList_toList]

theorem isAbsolute_of_not_mem {path : String} (h : '/' ∉ path.toList) :
    isAbsolute path = false := by
  rw [isAbsolute, beq_eq_false_iff_ne]
  exact fun hhead => h (List.mem_of_head? hhead)

end Path

/-! ## Segments -/

namespace Uri

namespace Path

/-- A segment with neither a slash nor dots alone, in whatever way these are written. -/
structure IsOrdinary (segment : List Char) : Prop where
  slash : '/' ∉ segment
  singleDot : isSingleDot segment = false
  doubleDot : isDoubleDot segment = false

theorem IsOrdinary.nil : IsOrdinary [] := ⟨List.not_mem_nil, rfl, rfl⟩

/-- A drive letter is read as one, so it is no dots. -/
theorem IsOrdinary.drive {segment : List Char} (h : isDriveLetter segment = true) :
    IsOrdinary (segment.take 1 ++ [':']) := by
  rw [isDriveLetter.eq_def] at h
  split at h
  · rename_i letter mark
    have hletter : letter.isAlpha = true := (Bool.and_eq_true_iff.mp h).1
    have hplain : plainDots [letter, ':'] = [letter, ':'] := by simp [plainDots]
    refine ⟨?_, ?_, ?_⟩
    · simp only [List.take_succ_cons, List.take_zero, List.singleton_append,
        List.mem_cons, List.not_mem_nil, or_false, not_or]
      refine ⟨?_, by decide⟩
      rintro rfl
      cases hletter
    · simp [isSingleDot, hplain]
    · simp [isDoubleDot, hplain]
  · cases h

/-- A reading without a drive letter that is continued, all of whose segments are
ordinary. -/
structure State.Ordinary (state : State) : Prop where
  done : ∀ segment ∈ state.done, IsOrdinary segment.toList
  lead : state.lead = []
  literal : state.literal = false

namespace State.Ordinary

variable {state : State}

theorem pop (h : state.Ordinary) : state.pop.Ordinary := by
  rw [State.pop]
  split
  · exact h
  · rename_i last rest hdone
    split
    · exact h
    · exact ⟨fun s hs => h.done s (hdone ▸ List.mem_cons_of_mem _ hs),
        h.lead, h.literal⟩

theorem push (h : state.Ordinary) {segment : List Char}
    (hsegment : IsOrdinary segment) :
    (state.push segment).Ordinary where
  done := List.forall_mem_cons.mpr ⟨by rwa [String.toList_ofList], h.done⟩
  lead := rfl
  literal := rfl

theorem pushLead (h : state.Ordinary) : state.pushLead.Ordinary := by
  rw [State.pushLead, if_pos (by rw [h.lead]; rfl)]
  exact ⟨h.done, h.lead, rfl⟩

theorem endDots (h : state.Ordinary) (isLast : Bool) :
    (state.endDots isLast).Ordinary := by
  rw [State.endDots]
  split
  · exact h.push .nil
  · exact h

/-- A segment that is dots is not kept. -/
theorem close (h : state.Ordinary) (kind : SchemeKind) {segment : List Char}
    (hslash : '/' ∉ segment) (isLast : Bool) :
    (state.close kind segment isLast).Ordinary := by
  rw [State.close, h.literal, h.lead]
  simp only [Bool.not_false, Bool.true_and, List.isEmpty_nil, if_true,
    List.nil_append]
  split
  · exact h.pop.endDots isLast
  · rename_i hdouble
    split
    · exact h.pushLead.endDots isLast
    · rename_i hsingle
      split
      · rename_i hdrive
        have hpushed := h.push (.drive (Bool.and_eq_true_iff.mp hdrive).2)
        exact ⟨hpushed.done, hpushed.lead, hpushed.literal⟩
      · exact h.push ⟨hslash, Bool.eq_false_iff.mpr hsingle,
          Bool.eq_false_iff.mpr hdouble⟩

/-- Without a break, nothing that was read so far is a drive letter on its own. -/
theorem not_isDriveAlone (h : state.Ordinary) {kind : SchemeKind} {broken : Bool}
    (hbroken : kind.isFile = true → broken = false) (current : List Char) :
    state.isDriveAlone kind current broken = false := by
  rw [State.isDriveAlone, h.lead, List.nil_append]
  cases hfile : kind.isFile with
  | false => rfl
  | true =>
    rw [hbroken hfile, Bool.false_or]
    cases current with
    | nil => simp [isNormalDriveLetter]
    | cons c rest => exact Bool.and_false _

end State.Ordinary

/-- That breaks count for nothing in a text: it has none, or is not the path of a
file. -/
def IsUnbroken (kind : SchemeKind) (text : List Char) : Prop :=
  kind.isFile = true → ∀ c ∈ text, isBreak c = false

theorem IsUnbroken.mono {kind : SchemeKind} {text text' : List Char}
    (h : IsUnbroken kind text) (hsub : text'.Sublist text) : IsUnbroken kind text' :=
  fun hfile c hc => h hfile c (hsub.subset hc)

theorem readFrom_ordinary (kind : SchemeKind) (state : State) (current : List Char)
    (broken : Bool) (text : List Char) (h : state.Ordinary) (hcurrent : '/' ∉ current)
    (hbroken : kind.isFile = true → broken = false) (htext : IsUnbroken kind text) :
    (readFrom kind state current broken text).1.Ordinary := by
  have hclosed : ∀ {state : State} {current : List Char}, state.Ordinary →
      '/' ∉ current →
      ∀ isLast, (state.close kind current.reverse isLast).Ordinary :=
    fun h hcurrent isLast => h.close kind (by rwa [List.mem_reverse]) isLast
  fun_induction readFrom kind state current broken text with
  | case1 state current broken => exact hclosed h hcurrent true
  | case2 state current broken c rest hbreak ih =>
    refine ih h hcurrent (fun hfile => ?_) (htext.mono (List.sublist_cons_self _ _))
    rw [htext hfile c List.mem_cons_self] at hbreak
    cases hbreak
  | case3 state current broken c rest hbreak hslash ih =>
    exact ih (hclosed h hcurrent false) List.not_mem_nil (fun _ => rfl)
      (htext.mono (List.sublist_cons_self _ _))
  | case4 state current broken c rest hbreak hslash hend =>
    exact hclosed h hcurrent true
  | case5 state current broken c rest hbreak hslash hend written hdrive ih =>
    rw [h.not_isDriveAlone hbroken] at hdrive
    cases hdrive
  | case6 state current broken c rest hbreak hslash hend written hdrive ih =>
    have hne : c ≠ '/' := by
      rintro rfl
      exact hslash rfl
    have hwritten : '/' ∉ written ++ current := by
      rw [List.mem_append, List.mem_reverse, not_or]
      exact ⟨IsMark.slash.not_mem_encodeChar (.inr hne), hcurrent⟩
    exact ih h hwritten (fun _ => rfl) (htext.mono (List.sublist_cons_self _ _))

/-- A path that continues nothing is read without dots. -/
theorem read_ordinary {kind : SchemeKind} {text : List Char}
    (h : IsUnbroken kind text) :
    ∀ segment ∈ (read kind .root text).segments, IsOrdinary segment.toList := by
  have hfrom := readFrom_ordinary kind ⟨[], [], false, false⟩ [] false text
    ⟨fun _ hs => absurd hs List.not_mem_nil, rfl, rfl⟩ List.not_mem_nil
    (fun _ => rfl) h
  intro segment hsegment
  refine hfrom.done segment ?_
  simp only [read] at hsegment
  split at hsegment
  · exact List.mem_reverse.mp (dropEmptyFront_subset _ hsegment)
  · exact List.mem_reverse.mp hsegment

end Path

/-! ## URIs that are read by themselves -/

/-- A path whose segments, if it has any, are ordinary. -/
def Hierarchy.IsOrdinary (path : Hierarchy) : Prop :=
  ∀ segment ∈ path.toList, Path.IsOrdinary segment.toList

theorem Hierarchy.IsOrdinary.root (kind : SchemeKind) :
    (Hierarchy.segments (if kind.isSpecial then [""] else [])).IsOrdinary := by
  intro segment hsegment
  rw [Hierarchy.toList] at hsegment
  split at hsegment
  · obtain rfl := List.mem_singleton.mp hsegment
    exact .nil
  · cases hsegment

theorem withPath_isOrdinary {scheme : String} (authority : Option Authority)
    {text : List Char} (h : Path.IsUnbroken (.ofScheme scheme) text) :
    (withPath scheme authority .root text).path.IsOrdinary :=
  Path.read_ordinary h

theorem isUnbroken_of_ne {scheme : String} (h : scheme ≠ "file") (text : List Char) :
    Path.IsUnbroken (.ofScheme scheme) text :=
  fun hfile => absurd (eq_of_beq hfile) h

theorem readAfterSlashes?_isOrdinary {scheme : String} (hscheme : scheme ≠ "file")
    {text : List Char} {uri : Uri} (h : readAfterSlashes? scheme text = some uri) :
    uri.path.IsOrdinary := by
  obtain ⟨⟨authority, back⟩, -, h⟩ := Option.bind_eq_some_iff.mp h
  dsimp only at h
  split at h
  · cases h
    exact .root _
  · split at h
    · cases h
      exact withPath_isOrdinary _ (isUnbroken_of_ne hscheme _)
    · split at h
      · cases h
        exact withPath_isOrdinary _ (isUnbroken_of_ne hscheme _)
      · cases h
        exact fun _ hsegment => absurd hsegment List.not_mem_nil

theorem readWithScheme?_isOrdinary {scheme : String} (hscheme : scheme ≠ "file")
    {text : List Char} {uri : Uri}
    (h : readWithScheme? none scheme text = some uri) : uri.path.IsOrdinary := by
  simp only [readWithScheme?] at h
  split at h
  · exact readAfterSlashes?_isOrdinary hscheme h
  · split at h
    · exact readAfterSlashes?_isOrdinary hscheme h
    · cases h
      exact withPath_isOrdinary _ (isUnbroken_of_ne hscheme _)
    · cases h
      exact fun _ hsegment => absurd hsegment List.not_mem_nil

theorem readFileHost?_isOrdinary {text : List Char}
    (htext : Path.IsUnbroken (.ofScheme "file") text) {uri : Uri}
    (h : readFileHost? text = some uri) : uri.path.IsOrdinary := by
  have hdrop : Path.IsUnbroken (.ofScheme "file")
      (text.dropWhile fun c => !endsAuthority (.ofScheme "file") c) :=
    htext.mono (List.dropWhile_sublist _)
  simp only [readFileHost?] at h
  split at h
  · cases h
    exact withPath_isOrdinary _ htext
  · obtain ⟨host, -, h⟩ := Option.bind_eq_some_iff.mp h
    split at h
    · cases h
      exact withPath_isOrdinary _ hdrop
    · cases h
      refine Path.read_ordinary (hdrop.mono ?_)
      split
      · rename_i c after heq
        rw [heq]
        split
        · exact List.sublist_cons_self _ _
        · exact .refl _
      · exact List.nil_sublist _

theorem readFileHost?_scheme {text : List Char} {uri : Uri}
    (h : readFileHost? text = some uri) :
    uri.scheme = "file" := by
  simp only [readFileHost?] at h
  split at h
  · cases h
    rfl
  · obtain ⟨host, -, h⟩ := Option.bind_eq_some_iff.mp h
    split at h
    · cases h
      rfl
    · cases h
      rfl

theorem readFile?_scheme {text : List Char} {uri : Uri}
    (h : readFile? none text = some uri) :
    uri.scheme = "file" := by
  simp only [readFile?, fileRoot] at h
  split at h
  · split at h
    · split at h
      · split at h
        · exact readFileHost?_scheme h
        · cases h
          rfl
      · cases h
        rfl
    · cases h
      rfl
  · cases h
    rfl

theorem readFile?_isOrdinary {text : List Char}
    (htext : Path.IsUnbroken (.ofScheme "file") text) {uri : Uri}
    (h : readFile? none text = some uri) : uri.path.IsOrdinary := by
  simp only [readFile?, fileRoot] at h
  split at h
  · rename_i c rest hnext
    have hrest :=
      htext.mono ((List.sublist_cons_self c rest).trans (next?_sublist hnext))
    split at h
    · split at h
      · rename_i d rest' hnext'
        split at h
        · have hsub := (List.sublist_cons_self d rest').trans (next?_sublist hnext')
          exact readFileHost?_isOrdinary (hrest.mono hsub) h
        · cases h
          exact withPath_isOrdinary _ hrest
      · cases h
        exact withPath_isOrdinary _ hrest
    · cases h
      exact withPath_isOrdinary _ htext
  · cases h
    exact withPath_isOrdinary _ htext

/-- The segments of a URI that is read by itself are ordinary, apart from those of a
file behind a break. -/
theorem read?_isOrdinary {text : String} {uri : Uri} (h : read? none text = some uri)
    (hbreaks : uri.scheme = "file" → ∀ c ∈ text.toList, Path.isBreak c = false) :
    uri.path.IsOrdinary := by
  simp only [read?.eq_def] at h
  split at h
  · rename_i scheme rest hscheme
    rw [Option.filter_none] at h
    split at h
    · have hunbroken := hbreaks (readFile?_scheme h)
      refine readFile?_isOrdinary (fun _ c hc => hunbroken c ?_) h
      exact ((splitScheme?_sublist hscheme).trans (trimEnds_sublist text)).subset hc
    · rename_i hfile
      exact readWithScheme?_isOrdinary
        (fun heq => hfile (by rw [heq, beq_self_eq_true])) h
  · cases h
  · rename_i hbase
    cases hbase

end Uri

/-! ## Files -/

namespace Folder

/-- A text up to the mark of a fragment. -/
def withoutFragment (uri : String) : String :=
  String.ofList (uri.toList.takeWhile (· != '#'))

theorem path?_read {folder uri path : String} {read : Uri}
    (h : path? folder uri = some path) (hread : Uri.read? none uri = some read) :
    ∃ name ∈ read.path.toList, name ≠ "" ∧ path = Path.join folder name := by
  simp only [path?, hread] at h
  obtain ⟨name, hname, rfl⟩ := Option.map_eq_some_iff.mp h
  obtain ⟨hlast, hne⟩ := Option.filter_eq_some_iff.mp hname
  refine ⟨name, ?_, ?_, rfl⟩
  · rw [Uri.lastSegment?] at hlast
    split at hlast
    · cases hlast
    · rename_i segments heq
      rw [heq]
      exact List.mem_of_getLast? hlast
  · rintro rfl
    exact absurd hne (by decide)

theorem path?_unread {folder uri path : String} (h : path? folder uri = some path)
    (hread : Uri.read? none uri = none) :
    path = Path.join folder (withoutFragment uri) := by
  simp only [path?, hread] at h
  obtain ⟨name, hname, rfl⟩ := Option.map_eq_some_iff.mp h
  obtain ⟨heq, -⟩ := Option.filter_eq_some_iff.mp hname
  cases heq
  rfl

/-- A URI is served from the folder itself. A text that is no URI is served from
inside the folder if it has parts, none of them two dots, unless it begins in the
root: it is the path then. -/
theorem path?_isInside {folder uri path : String} (h : path? folder uri = some path) :
    (∀ read, Uri.read? none uri = some read →
      (read.scheme = "file" → ∀ c ∈ uri.toList, Uri.Path.isBreak c = false) →
      ∃ name, name ≠ ".." ∧ Path.Extends folder path [name]) ∧
    (Uri.read? none uri = none →
      if Path.isAbsolute (withoutFragment uri) then path = withoutFragment uri
      else (Path.IsInside folder path ↔
        Path.parts (withoutFragment uri) ≠ [] ∧
          ".." ∉ Path.parts (withoutFragment uri))) := by
  constructor
  · intro read hread hbreaks
    obtain ⟨name, hmem, hne, rfl⟩ := path?_read h hread
    obtain ⟨hslash, hsingle, hdouble⟩ := Uri.read?_isOrdinary hread hbreaks name hmem
    have hdot : name ≠ "." := by
      rintro rfl
      exact absurd hsingle (by decide)
    refine ⟨name, ?_, ?_⟩
    · rintro rfl
      exact absurd hdouble (by decide)
    · rw [← Path.parts_of_not_mem hslash hne hdot]
      exact Path.extends_join (Path.isAbsolute_of_not_mem hslash)
  · intro hread
    obtain rfl := path?_unread h hread
    split
    · rename_i habsolute
      exact Path.join_of_isAbsolute folder habsolute
    · rename_i hrelative
      exact (Path.extends_join (Bool.eq_false_iff.mpr hrelative)).isInside_iff

theorem path?_isInside_address :
    path? "schemas" "https://example.com/v1/.%2E/address.json#/city" =
      some "schemas/address.json" ∧
    (∃ name, name ≠ ".." ∧ Path.Extends "schemas" "schemas/address.json" [name]) ∧
    path? "schemas" "common/types.yaml" = some "schemas/common/types.yaml" ∧
    Path.IsInside "schemas" "schemas/common/types.yaml" := by
  have haddress : path? "schemas" "https://example.com/v1/.%2E/address.json#/city" =
      some "schemas/address.json" := by decide +kernel
  have htypes : path? "schemas" "common/types.yaml" =
      some "schemas/common/types.yaml" := by
    decide +kernel
  obtain ⟨read, hread⟩ : ∃ read,
      Uri.read? none "https://example.com/v1/.%2E/address.json#/city" = some read :=
    Option.isSome_iff_exists.mp (by decide +kernel)
  have hbreaks : "https://example.com/v1/.%2E/address.json#/city".toList.all
      (fun c => !Uri.Path.isBreak c) = true := by decide +kernel
  have hunbroken : ∀ c ∈ "https://example.com/v1/.%2E/address.json#/city".toList,
      Uri.Path.isBreak c = false := by
        simpa only [List.all_eq_true, Bool.not_eq_true'] using hbreaks
  have hrelative := (path?_isInside htypes).2 (by decide +kernel)
  rw [if_neg (by decide +kernel)] at hrelative
  exact ⟨haddress, (path?_isInside haddress).1 read hread fun _ => hunbroken, htypes,
    hrelative.mpr (by decide +kernel)⟩

/-- Two dots in a text that is no URI lead out of the folder, and a slash in front
of it leads to the root. -/
theorem path?_leavesFolder :
    path? "schemas" "../secret.json" = some "schemas/../secret.json" ∧
    ¬ Path.IsInside "schemas" "schemas/../secret.json" ∧
    path? "schemas" "/etc/passwd" = some "/etc/passwd" ∧ ¬ Path.IsInside "schemas"
      "/etc/passwd" := by
  have hup : Path.Extends "schemas" "schemas/../secret.json" ["..", "secret.json"] :=
    ⟨by decide +kernel, by decide +kernel⟩
  refine ⟨by decide +kernel, fun hinside => ?_, by decide +kernel, ?_⟩
  · exact (hup.isInside_iff.mp hinside).2 List.mem_cons_self
  · rintro ⟨names, hnames, -⟩
    exact absurd hnames.isAbsolute (by decide +kernel)

end Folder

end SchemaDeref
