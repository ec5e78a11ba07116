import SchemaDeref.Proofs.Places
import SchemaDeref.Proofs.Refilling
import SchemaDeref.Proofs.Survivors

/-!
# Images of values

The same value is read in different ways under different keywords, and data that
looks like a schema is none where no schema is expected. A schema is an image if
some value is read as it; then it is what its own value is read as. Dereferencing
puts schemas in the places of schemas and lays keywords of one name over each other,
so that what comes out of images is an image again (`dereference_image`).
-/

namespace SchemaDeref

variable {ι : Type}

/-! ## Images -/

/-- A schema that some value is read as. -/
def Schema.IsImage (s : Schema ι) : Prop :=
  ∃ value, Schema.ofJson? value = some s.erase

/-- A keyword that some value is read as where `form` tells what is a schema. -/
def Keyword.IsImage (form : Form) (keyword : Keyword ι) : Prop :=
  ∃ value, Keyword.read form value = keyword.erase

/-- Keywords that are each read as their names demand. -/
def Keywords.AreImages (keywords : Keywords ι) : Prop :=
  ∀ entry ∈ keywords, Keyword.IsImage (Shape.ofKeyword entry.1).form entry.2

namespace Schema.IsImage

/-- An image is what its own value is read as. -/
theorem ofJson?_toJson {s : Schema ι} (h : s.IsImage) :
    Schema.ofJson? s.toJson = some s.erase := by
  obtain ⟨value, hvalue⟩ := h
  rwa [← s.toJson_erase, Schema.toJson_of_ofJson? hvalue]

theorem of_ofJson? {value : Json} {document : Document}
    (h : Schema.ofJson? value = some document) :
    document.IsImage := ⟨value, by rw [document.erase_document, h]⟩

theorem bool (value : Bool) : (Schema.bool value : Schema ι).IsImage :=
  ⟨.bool value, by rw [Schema.erase_bool, Schema.ofJson?]⟩

theorem erase_iff {s : Schema ι} : s.erase.IsImage ↔ s.IsImage := by
  rw [IsImage, IsImage, s.erase.erase_document]

end Schema.IsImage

/-! ## Reading lists, maps and keywords -/

theorem exists_readItems_iff {items : List (Keyword ι)} :
    (∃ values, readItems values = eraseItems items) ↔
      ∀ item ∈ items, item.IsImage .nested := by
  induction items with
  | nil =>
    exact ⟨fun _ _ h => absurd h List.not_mem_nil, fun _ =>
      ⟨[], by rw [readItems, eraseItems]⟩⟩
  | cons item rest ih =>
    rw [List.forall_mem_cons, ← ih, eraseItems]
    constructor
    · rintro ⟨values, h⟩
      cases values with
      | nil => cases h
      | cons value values =>
        rw [readItems] at h
        injection h with hitem hrest
        exact ⟨⟨value, hitem⟩, values, hrest⟩
    · rintro ⟨⟨value, hitem⟩, values, hrest⟩
      exact ⟨value :: values, by rw [readItems, hitem, hrest]⟩

theorem exists_readEntries_iff {entries : List (String × Keyword ι)} :
    (∃ members, readEntries members = eraseEntries entries) ↔
      ∀ entry ∈ entries, entry.2.IsImage .nested := by
  induction entries with
  | nil =>
    exact ⟨fun _ _ h => absurd h List.not_mem_nil, fun _ =>
      ⟨[], by rw [readEntries, eraseEntries]⟩⟩
  | cons entry rest ih =>
    obtain ⟨name, keyword⟩ := entry
    rw [List.forall_mem_cons, ← ih, eraseEntries]
    constructor
    · rintro ⟨members, h⟩
      cases members with
      | nil => cases h
      | cons member members =>
        rw [readEntries] at h
        injection h with hentry hrest
        injection hentry with _ hvalue
        exact ⟨⟨member.2, hvalue⟩, members, hrest⟩
    · rintro ⟨⟨value, hvalue⟩, members, hrest⟩
      exact ⟨(name, value) :: members, by rw [readEntries, hvalue, hrest]⟩

theorem exists_readKeywords_iff {keywords : Keywords ι} :
    (∃ members, readKeywords members = eraseEntries keywords) ↔
      Keywords.AreImages keywords := by
  rw [Keywords.AreImages]
  induction keywords with
  | nil =>
    exact ⟨fun _ _ h => absurd h List.not_mem_nil, fun _ =>
      ⟨[], by rw [readKeywords, eraseEntries]⟩⟩
  | cons entry rest ih =>
    obtain ⟨name, keyword⟩ := entry
    rw [List.forall_mem_cons, ← ih, eraseEntries]
    constructor
    · rintro ⟨members, h⟩
      cases members with
      | nil => cases h
      | cons member members =>
        obtain ⟨key, value⟩ := member
        rw [readKeywords] at h
        injection h with hentry hrest
        injection hentry with hname hvalue
        cases hname
        exact ⟨⟨value, hvalue⟩, members, hrest⟩
    · rintro ⟨⟨value, hvalue⟩, members, hrest⟩
      exact ⟨(name, value) :: members, by rw [readKeywords, hvalue, hrest]⟩

/-- An object is an image if its keywords are. -/
theorem Schema.isImage_object {mark : ι} {keywords : Keywords ι} :
    (Schema.object mark keywords).IsImage ↔ Keywords.AreImages keywords := by
  rw [← exists_readKeywords_iff, IsImage, Schema.erase_object]
  constructor
  · rintro ⟨value, h⟩
    cases value with
    | obj members =>
      injection h with h
      injection h with _ h
      exact ⟨members, h⟩
    | null | bool | num | str | arr => cases h
  · rintro ⟨members, h⟩
    exact ⟨.obj members, by rw [Schema.ofJson?, h]⟩

/-! ## Images in places -/

/-- No object is taken both for a map and for a schema. -/
def Form.IsProper (form : Form) : Prop := form.schema = true → form.map = false

theorem Form.isProper_nested : Form.nested.IsProper := fun _ => rfl

theorem Shape.isProper_form (shape : Shape) : shape.form.IsProper := by
  intro h
  cases shape <;> first | rfl | cases h

namespace Keyword

variable {form : Form}

theorem isImage_schema (hproper : form.IsProper) {s : Schema ι} :
    (Keyword.schema s).IsImage form ↔ form.schema = true ∧ s.IsImage := by
  rw [IsImage, erase]
  constructor
  · rintro ⟨value, h⟩
    refine ⟨?_, value, ofJson?_of_read h⟩
    cases value with
    | bool b =>
      rw [Keyword.read] at h
      split at h
      · assumption
      · cases h
    | obj members =>
      rw [Keyword.read] at h
      split at h
      · cases h
      · split at h
        · assumption
        · cases h
    | arr items =>
      rw [Keyword.read] at h
      split at h <;> cases h
    | null | num | str => simp [Keyword.read] at h
  · rintro ⟨hschema, value, h⟩
    refine ⟨value, ?_⟩
    cases value with
    | bool b =>
      injection h with h
      rw [Keyword.read, if_pos hschema, h]
    | obj members =>
      injection h with h
      rw [Keyword.read, hproper hschema, if_neg Bool.false_ne_true, if_pos hschema, h]
    | null | num | str | arr => cases h

theorem isImage_list {items : List (Keyword ι)} :
    (Keyword.list items).IsImage form ↔
      form.list = true ∧ ∀ item ∈ items, item.IsImage .nested := by
  rw [← exists_readItems_iff, IsImage, erase]
  constructor
  · rintro ⟨value, h⟩
    cases value with
    | arr values =>
      rw [Keyword.read] at h
      split at h
      · rename_i hlist
        injection h with h
        exact ⟨hlist, values, h⟩
      · cases h
    | bool b =>
      rw [Keyword.read] at h
      split at h <;> cases h
    | obj members =>
      rw [Keyword.read] at h
      split at h
      · cases h
      · split at h <;> cases h
    | null | num | str => simp [Keyword.read] at h
  · rintro ⟨hlist, values, h⟩
    exact ⟨.arr values, by rw [Keyword.read, if_pos hlist, h]⟩

theorem isImage_map {entries : List (String × Keyword ι)} :
    (Keyword.map entries).IsImage form ↔
      form.map = true ∧ ∀ entry ∈ entries, entry.2.IsImage .nested := by
  rw [← exists_readEntries_iff, IsImage, erase]
  constructor
  · rintro ⟨value, h⟩
    cases value with
    | obj members =>
      rw [Keyword.read] at h
      split at h
      · rename_i hmap
        injection h with h
        exact ⟨hmap, members, h⟩
      · split at h <;> cases h
    | arr values =>
      rw [Keyword.read] at h
      split at h <;> cases h
    | bool b =>
      rw [Keyword.read] at h
      split at h <;> cases h
    | null | num | str => simp [Keyword.read] at h
  · rintro ⟨hmap, members, h⟩
    exact ⟨.obj members, by rw [Keyword.read, if_pos hmap, h]⟩

end Keyword

/-! ## Inside images -/

mutual

/-- Every schema inside an image is one. -/
theorem Schema.IsImage.of_mem_nodes {t : Schema ι} :
    ∀ {s : Schema ι}, s.IsImage → t ∈ s.nodes → t.IsImage
  | .bool value, h, ht => by
    rw [Schema.nodes, List.mem_singleton] at ht
    exact ht ▸ h
  | .object mark keywords, h, ht => by
    rw [Schema.nodes, List.mem_cons] at ht
    rcases ht with rfl | ht
    · exact h
    · exact isImage_of_mem_keywordNodes (Schema.isImage_object.mp h) ht

theorem Keyword.IsImage.of_mem_nodes {form : Form} (hproper : form.IsProper)
    {t : Schema ι} :
    ∀ {keyword : Keyword ι}, keyword.IsImage form → t ∈ keyword.nodes → t.IsImage
  | .schema s, h, ht => by
    rw [Keyword.nodes] at ht
    exact ((Keyword.isImage_schema hproper).mp h).2.of_mem_nodes ht
  | .list items, h, ht => by
    rw [Keyword.nodes] at ht
    exact isImage_of_mem_itemNodes (Keyword.isImage_list.mp h).2 ht
  | .map entries, h, ht => by
    rw [Keyword.nodes] at ht
    exact isImage_of_mem_entryNodes (Keyword.isImage_map.mp h).2 ht
  | .value data, _, ht => by simp [Keyword.nodes] at ht

theorem isImage_of_mem_itemNodes {t : Schema ι} :
    ∀ {items : List (Keyword ι)}, (∀ item ∈ items, item.IsImage .nested) →
      t ∈ itemNodes items →
      t.IsImage
  | [], _, ht => by simp [itemNodes] at ht
  | item :: rest, h, ht => by
    obtain ⟨hitem, hrest⟩ := List.forall_mem_cons.mp h
    rw [itemNodes, List.mem_append] at ht
    rcases ht with ht | ht
    · exact hitem.of_mem_nodes Form.isProper_nested ht
    · exact isImage_of_mem_itemNodes hrest ht

theorem isImage_of_mem_entryNodes {t : Schema ι} :
    ∀ {entries : List (String × Keyword ι)},
      (∀ entry ∈ entries, entry.2.IsImage .nested) →
      t ∈ entryNodes entries → t.IsImage
  | [], _, ht => by simp [entryNodes] at ht
  | (name, entry) :: rest, h, ht => by
    obtain ⟨hentry, hrest⟩ := List.forall_mem_cons.mp h
    rw [entryNodes, List.mem_append] at ht
    rcases ht with ht | ht
    · exact hentry.of_mem_nodes Form.isProper_nested ht
    · exact isImage_of_mem_entryNodes hrest ht

theorem isImage_of_mem_keywordNodes {t : Schema ι} :
    ∀ {keywords : List (String × Keyword ι)}, Keywords.AreImages keywords →
      t ∈ entryNodes keywords → t.IsImage
  | [], _, ht => by simp [entryNodes] at ht
  | (name, keyword) :: rest, h, ht => by
    obtain ⟨hkeyword, hrest⟩ := List.forall_mem_cons.mp h
    rw [entryNodes, List.mem_append] at ht
    rcases ht with ht | ht
    · exact hkeyword.of_mem_nodes (Shape.isProper_form _) ht
    · exact isImage_of_mem_keywordNodes hrest ht

end

theorem Schema.IsImage.applied {mark : ι} {keywords : Keywords ι}
    (h : (Schema.object mark keywords).IsImage) {s : Schema ι}
    (hs : s ∈ Keywords.applied keywords) :
    s.IsImage :=
  isImage_of_mem_keywordNodes (Schema.isImage_object.mp h)
    (Keywords.applied_subset_nodes keywords hs)

/-- A pointer in an image leads to an image: what it ends at is in it, or read anew
from its value. -/
theorem Schema.IsImage.at {d s : Document} (h : d.IsImage) {pointer : String}
    (hat : d.at pointer = .ok s) : s.IsImage := by
  have hd := h.ofJson?_toJson
  rw [d.erase_document] at hd
  obtain ⟨place, _, hplace⟩ := (Schema.at_eq_ok_iff hd).mp hat
  exact .of_ofJson? hplace

theorem Schema.IsImage.of_find? {d s : Document} (h : d.IsImage) {p : Document → Bool}
    (hfind : d.preorder.find? p = some s) : s.IsImage :=
  h.of_mem_nodes (d.preorder_subset_nodes (List.mem_of_find?_eq_some hfind))

theorem Schema.IsImage.locate {d s : Document} (h : d.IsImage)
    {fragment : Option String} (hlocate : d.locate fragment = .ok s) : s.IsImage := by
  simp only [Document.locate] at hlocate
  split at hlocate
  · cases hlocate
    exact h
  · split at hlocate
    · cases hlocate
      exact h
    · exact h.at hlocate
    · split at hlocate
      · rename_i hfind
        cases hlocate
        exact h.of_find? hfind
      · exact h.at hlocate

/-! ## Refilling and laying over -/

/-- Images in the places of images make images. -/
theorem handsUp_isImage :
    HandsUp (fun old new : Schema ι => old.IsImage → new.IsImage)
    (fun old new => ∀ form : Form, form.IsProper → old.IsImage form →
      new.IsImage form) where
  schema h form hproper hold := by
    obtain ⟨hschema, hold⟩ := (Keyword.isImage_schema hproper).mp hold
    exact (Keyword.isImage_schema hproper).mpr ⟨hschema, h hold⟩
  list h form _ hold := by
    obtain ⟨hlist, hitems⟩ := Keyword.isImage_list.mp hold
    have hnested := h.imp fun _ _ hfirst => hfirst .nested Form.isProper_nested
    exact Keyword.isImage_list.mpr ⟨hlist, forall_mem_of_forall₂ hnested hitems⟩
  map h form _ hold := by
    obtain ⟨hmap, hentries⟩ := Keyword.isImage_map.mp hold
    have hnested := h.imp fun _ _ hfirst => hfirst.2 .nested Form.isProper_nested
    exact Keyword.isImage_map.mpr ⟨hmap, forall_mem_of_forall₂ hnested hentries⟩
  value _ _ _ hold := hold

namespace Keywords.AreImages

variable {keywords : Keywords ι}

theorem refill (h : AreImages keywords) {news : List (Schema ι)}
    (hlength : news.length = (applied keywords).length)
    (hnews : ∀ s ∈ news, s.IsImage) :
    AreImages (Keywords.refill keywords news) := by
  have hrelated : List.Forall₂ (fun old new : Schema ι => old.IsImage → new.IsImage)
      (applied keywords) news :=
    List.forall₂_iff_zip.mpr ⟨hlength.symm, fun hmem _ =>
      hnews _ (List.of_mem_zip hmem).2⟩
  have hentries := related_refill handsUp_isImage (fun _ => id) keywords news hrelated
  refine forall_mem_of_forall₂ (hentries.imp fun old new hentry hold => ?_) h
  rw [← hentry.1]
  exact hentry.2 _ (Shape.isProper_form _) hold

theorem siblings (h : AreImages keywords) : AreImages (Keywords.siblings keywords) :=
  fun entry hentry => h entry (List.mem_filter.mp hentry).1

/-- Each keyword is read by its own name, wherever it comes from. -/
theorem overwrite {upper : Keywords ι} (h : AreImages keywords)
    (hupper : AreImages upper) :
    AreImages (Members.overwrite keywords upper) :=
  fun entry hentry => (Members.mem_overwrite hentry).elim (h entry) (hupper entry)

end Keywords.AreImages

/-- A target that is an image is one with siblings laid over it. -/
theorem Schema.IsImage.overlaid {target : Document} (h : target.IsImage)
    {upper : Keywords Unit} (hupper : Keywords.AreImages upper) :
    (target.overlaid upper).IsImage := by
  simp only [Schema.overlaid]
  split
  · exact h
  · cases target with
    | bool value =>
      cases value with
      | false => exact h
      | true => exact Schema.isImage_object.mpr hupper
    | object mark keywords =>
      exact Schema.isImage_object.mpr ((Schema.isImage_object.mp h).overwrite hupper)

theorem Document.isImage_concluded {members : Keywords Unit}
    (h : Keywords.AreImages members) {outcome : Option Document}
    (houtcome : ∀ target ∈ outcome, target.IsImage) :
    (Document.concluded members outcome).IsImage := by
  cases outcome with
  | none => exact Schema.isImage_object.mpr h
  | some target => exact Schema.IsImage.overlaid (houtcome target rfl) h.siblings

/-! ## Views and worlds -/

def Catalog.AreImages (catalog : Catalog ι) : Prop :=
  ∀ entry ∈ catalog.entries, entry.2.IsImage

/-- A loader that answers with images only. -/
def Loader.GivesImages (loader : Loader) : Prop :=
  ∀ asked uri document, loader asked uri = .document document → document.IsImage

/-- All documents that a view shows are images. -/
structure View.AreImages (view : View) : Prop where
  root : view.root.IsImage
  anchors : ∀ anchor ∈ view.anchors, anchor.IsImage
  bindings : ∀ entry ∈ view.bindings, entry.2.IsImage

namespace Catalog.AreImages

variable {catalog : Catalog ι}

theorem register (h : catalog.AreImages) {document : Schema ι}
    (hdocument : document.IsImage) (uri : Option String) :
    (catalog.register document uri).AreImages := by
  intro entry hentry
  rw [register_eq] at hentry
  split at hentry
  · exact h entry hentry
  · rcases mem_addAll hentry with ⟨resource, hresource, heq⟩ | hentry
    · rw [heq]
      exact hdocument.of_mem_nodes (Schema.mem_nodes_of_named hresource)
    · exact h entry hentry

theorem get? (h : catalog.AreImages) {uri : String} {document : Schema ι}
    (hget : catalog.get? uri = some document) : document.IsImage :=
  h _ (mem_of_get? hget)

end Catalog.AreImages

theorem Catalog.areImages_erase {catalog : Catalog ι} :
    catalog.erase.AreImages ↔ catalog.AreImages := by
  simp only [AreImages, erase, List.forall_mem_map, Schema.IsImage.erase_iff]

theorem World.areImages_fetch {loader : Loader} (hloader : loader.GivesImages)
    {world : World} (h : world.catalog.AreImages) (name target : String) :
    (world.fetch loader name target).2.catalog.AreImages ∧
      ∀ document, (world.fetch loader name target).1 = .ok document →
        document.IsImage := by
  simp only [World.fetch]
  split
  · rename_i document hget
    refine ⟨h, ?_⟩
    rintro _ ⟨⟩
    exact h.get? hget
  · split
    · rename_i document hanswer
      have hdocument := hloader _ _ _ hanswer
      refine ⟨h.register hdocument (some name), ?_⟩
      rintro _ ⟨⟩
      exact hdocument
    all_goals exact ⟨h, fun _ hdocument => by cases hdocument⟩

namespace View.AreImages

variable {view : View}

theorem start {root : Document} (h : root.IsImage) (base : Option String) :
    View.AreImages ⟨root, base, [], [], []⟩ :=
  ⟨h, fun _ hanchor => absurd hanchor List.not_mem_nil,
    fun _ hentry => absurd hentry List.not_mem_nil⟩

theorem enter (h : view.AreImages) {keywords : Keywords Unit}
    (hobject : (Schema.object () keywords).IsImage) :
    (view.enter keywords).AreImages := by
  refine ⟨h.root, ?_, ?_⟩
  · simp only [View.enter]
    split
    · exact List.forall_mem_cons.mpr ⟨hobject, h.anchors⟩
    · exact h.anchors
  · simp only [View.enter]
    split
    · exact List.forall_mem_cons.mpr ⟨hobject, h.bindings⟩
    · exact h.bindings

theorem descend (h : view.AreImages) {root : Document} (hroot : root.IsImage)
    (key : String) (base : Option String) : (view.descend key root base).AreImages :=
  ⟨hroot, h.anchors, h.bindings⟩

theorem binding (h : view.AreImages) {name : String} {bound : Document}
    (hbinding : view.binding? name = some bound) : bound.IsImage := by
  obtain ⟨front, back, heq, _⟩ := List.lookup_eq_some_iff.mp hbinding
  exact h.bindings (name, bound) (heq ▸ by simp)

theorem dynamicPlace (h : view.AreImages) {target fragment : String} {s : Document}
    (hplace : view.dynamicPlace target fragment = .ok s) : s.IsImage := by
  simp only [View.dynamicPlace] at hplace
  split at hplace
  · exact h.root.at hplace
  · split at hplace
    · rename_i bound hbinding
      exact (h.binding hbinding).at hplace
    · split at hplace
      · rename_i anchored hfind
        exact (h.root.of_find? hfind).at hplace
      · cases hplace

theorem place (h : view.AreImages) {reference : Reference} {s : Document}
    (hplace : view.place reference = .ok s) : s.IsImage := by
  rw [View.place] at hplace
  split at hplace
  · exact h.root.locate hplace
  · refine Schema.IsImage.locate ?_ hplace
    cases hanchor : view.recursiveAnchor? with
    | none => exact h.root
    | some anchor => exact h.anchors anchor (List.mem_of_head? hanchor)
  · exact h.dynamicPlace hplace

theorem destination (h : view.AreImages) {loader : Loader}
    (hloader : loader.GivesImages) {world : World}
    (hworld : world.catalog.AreImages) (reference : Reference) :
    (view.destination loader reference world).2.catalog.AreImages ∧
      ∀ destination, (view.destination loader reference world).1 = .ok destination →
        destination.place.IsImage ∧ destination.root.IsImage := by
  simp only [View.destination]
  split
  · refine ⟨hworld, ?_⟩
    cases hplace : view.place reference with
    | error error =>
      rintro destination ⟨⟩
    | ok s =>
      rintro destination ⟨⟩
      exact ⟨h.place hplace, h.root⟩
  · rename_i uri _
    obtain ⟨hafter, hfetched⟩ :=
      World.areImages_fetch hloader hworld (Uri.joinName view.base uri)
        reference.target
    split
    · rename_i document after heq
      rw [heq] at hafter hfetched
      have hdocument := hfetched document rfl
      refine ⟨hafter, ?_⟩
      cases hlocate : document.locate reference.parts.fragment with
      | error error =>
        rintro destination ⟨⟩
      | ok s =>
        rintro destination ⟨⟩
        exact ⟨hdocument.locate hlocate, hdocument⟩
    · rename_i error after heq
      rw [heq] at hafter
      refine ⟨hafter, ?_⟩
      rintro destination ⟨⟩

end View.AreImages

/-! ## Walks -/

/-- All documents that a run can find or has remembered are images. -/
structure State.AreImages (state : State) : Prop where
  catalog : state.catalog.AreImages
  notes : ∀ note ∈ state.notes, note.result.IsImage

/-- The schemas of a task are images. -/
def Task.AreImages : Task → Prop
  | .node n => n.IsImage
  | .nodes ns => ∀ n ∈ ns, n.IsImage
  | .link _ | .reference _ => True

def Answer.AreImages : Answer → Prop
  | .node n => n.IsImage
  | .nodes ns => ∀ n ∈ ns, n.IsImage
  | .outcome (.target target) => target.IsImage
  | .outcome .kept => True

namespace State.AreImages

variable {state : State}

theorem noteNode (h : state.AreImages) {result : Node} (hresult : result.IsImage)
    (node : Node) (reach : Reach) (next : NodeId) :
    ({ state with next }.noteNode node result reach).AreImages where
  catalog := h.catalog
  notes := List.forall_mem_cons.mpr ⟨hresult, h.notes⟩

theorem noteReference (h : state.AreImages) {result : Node} (hresult : result.IsImage)
    (reference : Reference) (base : Option String) (reach : Reach) :
    (state.noteReference reference base result reach).AreImages where
  catalog := h.catalog
  notes := by
    simp only [State.noteReference]
    split
    · exact List.forall_mem_cons.mpr ⟨hresult, h.notes⟩
    · exact h.notes

end State.AreImages

theorem Reference.Arrives.areImages {setup : Setup}
    (hloader : setup.loader.GivesImages) {scope : Scope}
    (hview : scope.view.AreImages) {reference : Reference} {state : State}
    (hstate : state.AreImages) {destination : Destination NodeId} {run : Run}
    (route : reference.Arrives setup scope state.toRun (.ok destination) run) :
    State.AreImages ⟨run, state.notes⟩ ∧ destination.place.IsImage ∧
      destination.root.IsImage := by
  have hworld : state.toRun.world.catalog.AreImages :=
    Catalog.areImages_erase.mpr hstate.catalog
  obtain ⟨hafter, hdestination⟩ := hview.destination hloader hworld reference
  rw [route.erase_eq] at hafter hdestination
  obtain ⟨hplace, hroot⟩ := hdestination _ rfl
  exact ⟨⟨Catalog.areImages_erase.mp hafter, hstate.notes⟩,
    Schema.IsImage.erase_iff.mp hplace, Schema.IsImage.erase_iff.mp hroot⟩

theorem Walk.images {setup : Setup} (hloader : setup.loader.GivesImages)
    {Fair : Fairness} {hops : Nat} {scope : Scope} {task : Task} {state after : State}
    {result : Except DerefError Answer} {reach : Reach}
    (walk : Walk setup Fair hops scope task state result after reach) :
    scope.view.AreImages → task.AreImages → state.AreImages →
      ∀ answer, result = .ok answer →
      after.AreImages ∧ answer.AreImages := by
  -- what is remembered are images, so a reused result is one
  induction walk with
  | unlinked | unfinished | headFailed | tailFailed | circular | tooDeep | lost
  | unexpanded =>
    intro _ _ _ answer hanswer
    cases hanswer
  | bool =>
    rintro _ _ hstate answer ⟨⟩
    exact ⟨hstate, Schema.IsImage.bool _⟩
  | recalled hit noted mark fair =>
    rintro _ _ hstate answer ⟨⟩
    exact ⟨⟨hstate.catalog, hstate.notes⟩, hstate.notes _ noted⟩
  | @concluded _ scope id keywords state outcome middle results after result next _
    _ fresh link
      members conclude erase ihlink ihmembers =>
    rintro hview hnode hstate answer ⟨⟩
    have hobject : (Schema.object () (eraseEntries keywords)).IsImage := by
      rw [← Schema.erase_object id]
      exact Schema.IsImage.erase_iff.mpr hnode
    have hkeywords := Schema.isImage_object.mp hobject
    have hinner : (scope.enter id keywords).view.AreImages := by
      rw [Scope.view_enter]
      exact hview.enter hobject
    obtain ⟨hmiddle, houtcome⟩ := ihlink hinner trivial hstate _ rfl
    obtain ⟨hafter, hresults⟩ :=
      ihmembers hinner (fun s hs => Schema.IsImage.applied hnode hs)
      hmiddle _ rfl
    have hlength : results.length = (Keywords.applied keywords).length :=
      members.fits _ rfl
    have hrefilled : Keywords.AreImages
        (Keywords.refill (eraseEntries keywords) (results.map Schema.erase)) := by
      refine hkeywords.refill ?_ ?_
      · rw [Keywords.applied_erase, List.length_map, List.length_map, hlength]
      · intro s hs
        obtain ⟨new, hnew, rfl⟩ := List.mem_map.mp hs
        exact Schema.IsImage.erase_iff.mpr (hresults new hnew)
    have hresult : result.IsImage := by
      refine Schema.IsImage.erase_iff.mp ?_
      rw [erase]
      refine Document.isImage_concluded hrefilled ?_
      rintro target htarget
      cases outcome with
      | kept => cases htarget
      | target node =>
        cases htarget
        exact Schema.IsImage.erase_iff.mpr houtcome
    exact ⟨hafter.noteNode hresult _ _ next, hresult⟩
  | nil =>
    rintro _ _ hstate answer ⟨⟩
    exact ⟨hstate, fun _ hnode => absurd hnode List.not_mem_nil⟩
  | cons head tail ihhead ihtail =>
    rintro hview hnodes hstate answer ⟨⟩
    obtain ⟨hnode, hrest⟩ := List.forall_mem_cons.mp hnodes
    obtain ⟨hmiddle, hresult⟩ := ihhead hview hnode hstate _ rfl
    obtain ⟨hafter, hresults⟩ := ihtail hview hrest hmiddle _ rfl
    exact ⟨hafter, List.forall_mem_cons.mpr ⟨hresult, hresults⟩⟩
  | unreferring =>
    rintro _ _ hstate answer ⟨⟩
    exact ⟨hstate, trivial⟩
  | referring some follow ih =>
    intro hview _ hstate answer hanswer
    exact ih hview trivial ⟨hstate.catalog, hstate.notes⟩ answer hanswer
  | reused hit static noted mark fair =>
    rintro _ _ hstate answer ⟨⟩
    exact ⟨⟨hstate.catalog, hstate.notes⟩, hstate.notes _ noted⟩
  | circled =>
    rintro _ _ hstate answer ⟨⟩
    exact ⟨⟨hstate.catalog, hstate.notes⟩, trivial⟩
  | @expanded _ scope reference state destination run result after _ fresh straight
    route target ih =>
    rintro hview _ hstate answer ⟨⟩
    obtain ⟨hrun, hplace, hroot⟩ := route.areImages hloader hview hstate
    have hbehind : (scope.descend (reference.key scope.base) destination.root
        destination.base).view.AreImages := by
      rw [Scope.view_descend]
      exact hview.descend (Schema.IsImage.erase_iff.mpr hroot) _ _
    obtain ⟨hafter, hresult⟩ := ih hbehind hplace ⟨hrun.catalog, hrun.notes⟩ _ rfl
    exact ⟨hafter.noteReference hresult reference scope.base _, hresult⟩

/-! ## Calls -/

/-- Every boolean and every object is written as it was read. If all that a call can
start from are images - the schema, the documents of the session and those of the
loader - then so is its result: it is what its own value is read as. -/
theorem dereference_image :
    (∀ value, (∃ b, value = .bool b) ∨ (∃ members, value = .obj members) →
      (Schema.ofJson? value).map Schema.toJson = some value) ∧
    ∀ (setup : Setup) (session : Session) (schemas : List Node) (schema : Node),
      session.Holds schemas → schema ∈ schemas → schema.IsImage →
        session.catalog.AreImages →
      setup.loader.GivesImages →
      ∀ report, (dereference setup session schema).result = .ok report →
        Schema.ofJson? report.schema.toJson = some report.schema.erase := by
  constructor
  · intro value hvalue
    have hread : ∃ document, Schema.ofJson? value = some document := by
      rcases hvalue with ⟨b, rfl⟩ | ⟨members, rfl⟩
      · exact ⟨_, rfl⟩
      · exact ⟨_, rfl⟩
    obtain ⟨document, hdocument⟩ := hread
    rw [hdocument, Option.map_some, Schema.toJson_of_ofJson? hdocument]
  · intro setup session schemas schema hholds hmem hschema hcatalog hloader report hok
    obtain ⟨result, after, reach, walk, _, _⟩ := exists_callWalk setup hholds hmem
    rw [walk.dereference_eq] at hok
    cases result with
    | error error => cases hok
    | ok node =>
      cases hok
      have hbegin : (setup.begin session schema).AreImages :=
        ⟨hcatalog.register hschema none, fun _ hnote => absurd hnote List.not_mem_nil⟩
      have hview : (Scope.start schema none).view.AreImages :=
        .start (Schema.IsImage.erase_iff.mpr hschema) none
      exact (Walk.images hloader walk hview hschema hbegin _ rfl).2.ofJson?_toJson

/-- The document that an object is read as. -/
def Document.ofMembers (members : Members Json) : Document :=
  .object () (readKeywords members)

theorem Document.isImage_ofMembers (members : Members Json) :
    (ofMembers members).IsImage :=
  .of_ofJson? (show Schema.ofJson? (.obj members) = _ from rfl)

/-- A list with a reference that is replaced and data that looks like one, and a
circular reference. -/
def lookalikes : Document := .ofMembers [
  ("items", .arr [.obj [("$ref", .str "urn:b"), ("title", .str "t")],
    .obj [("const", .obj [("not", .obj [("$ref", .str "#")])])]]),
  ("properties", .obj [("x", .obj [("$ref", .str "#")])])]

/-- Cuts circular references, and gets a list of schemas under every name. -/
def Setup.cutting : Setup where
  settings := { cyclePolicy := .ignore }
  loader := .ofFunction fun _ =>
    .document (.ofMembers [("anyOf", .arr [.bool true, .obj []])])

theorem dereference_image_lookalikes :
    lookalikes.toJson = .obj [
      ("items", .arr [.obj [("$ref", .str "urn:b"), ("title", .str "t")],
        .obj [("const", .obj [("not", .obj [("$ref", .str "#")])])]]),
      ("properties", .obj [("x", .obj [("$ref", .str "#")])])] ∧
    ∃ report, (dereference .cutting (Session.empty.mint lookalikes).2
        (Session.empty.mint lookalikes).1).result = .ok report ∧
      Schema.ofJson? report.schema.toJson = some report.schema.erase := by
  refine ⟨Option.some.inj (dereference_image.1 _ (.inr ⟨_, rfl⟩)), ?_⟩
  have hok : (dereference .cutting (Session.empty.mint lookalikes).2
      (Session.empty.mint lookalikes).1).result.toOption.isSome = true := by
        decide +kernel
  have himage : (Session.empty.mint lookalikes).1.IsImage := by
    refine Schema.IsImage.erase_iff.mp ?_
    rw [Session.erase_mint, Schema.IsImage.erase_iff]
    exact Document.isImage_ofMembers _
  have hloader : Setup.cutting.loader.GivesImages := by
    rintro asked uri document ⟨⟩
    exact Document.isImage_ofMembers _
  cases hresult : (dereference .cutting (Session.empty.mint lookalikes).2
      (Session.empty.mint lookalikes).1).result with
  | error error =>
    rw [hresult] at hok
    cases hok
  | ok report =>
    exact ⟨report, rfl,
      dereference_image.2 _ _ _ _ (Session.holds_empty.mint lookalikes)
      List.mem_cons_self himage (fun _ hentry => absurd hentry List.not_mem_nil)
        hloader report hresult⟩

end SchemaDeref
