import Mathlib.Data.List.Pairwise
import SizeSweep.Proofs.Yaml.Forms

/-!
Records.  A record is made of entries that name its fields, none of them twice and no required one
being left out, over values of the fields' types.  What it has in a field depends on nothing but
what stands under the name of that field, and so the order of the entries does not count.
-/

namespace SizeSweep.Yaml

/-! ### Entries of records -/

/-- What is asked of a field of a record. -/
structure FieldShape where
  name : String
  /-- Whether it must not be left out. -/
  required : Bool
  /-- Which trees are of the type of the field. -/
  HasType : Node → Prop

/-- Entries that name fields of a record, each at most once, over values of the types of these
fields. -/
structure Named (shapes : List FieldShape) (entries : List (Node × Node)) : Prop where
  known : ∀ entry ∈ entries, ∃ shape ∈ shapes,
    entry.1.name? = some shape.name ∧ shape.HasType entry.2
  once : (names entries).Nodup

/-- Entries of which a record can be made: no required field is left out. -/
structure Fits (shapes : List FieldShape) (entries : List (Node × Node)) : Prop
    extends Named shapes entries where
  required : ∀ shape ∈ shapes, shape.required = true → ∃ node, Under entries shape.name node

/-- A tree of which a record can be made. -/
def Node.IsRecord (shapes : List FieldShape) (node : Node) : Prop :=
  ∃ entries, node.HasEntries entries ∧ Fits shapes entries

/-- The records of which a relation says when they are made of entries, in trees of their type. -/
def Form.Record {R : Type} (shapes : List FieldShape) (Written : List (Node × Node) → R → Prop) :
    Form R := fun node record =>
  ∃ entries, node.HasEntries entries ∧ Fits shapes entries ∧ Written entries record

/-- A value of a form stands under a name. -/
def Requires {α : Type} (entries : List (Node × Node)) (name : String) (form : Form α) (x : α) :
    Prop :=
  ∃ node, Under entries name node ∧ form node x

/-- A value of a form stands under a name, or nothing does and the value is the default. -/
def Defaults {α : Type} (entries : List (Node × Node)) (name : String) (form : Form α)
    (default x : α) : Prop :=
  Requires entries name form x ∨ (∀ node, ¬Under entries name node) ∧ x = default

lemma Named.of_append {shapes : List FieldShape} {before after : List (Node × Node)}
    (h : Named shapes (before ++ after)) : Named shapes before where
  known entry hentry := h.known entry (List.mem_append_left after hentry)
  once := by
    have honce := h.once
    rw [names_append] at honce
    exact honce.of_append_left

/-! ### Slots -/

/-- A field of a record and its place in drafts. -/
structure Slot (D : Type) extends FieldShape where
  {α : Type}
  /-- The value of the field in a draft, if there is one. -/
  get : D → Option α
  /-- Puts a value of the field into a draft. -/
  set : D → α → D
  decoder : Decoder α
  form : Form α
  get_set : ∀ draft x, get (set draft x) = some x
  reads : decoder.Reads form
  hasType_iff : ∀ node, node.AliasFree → (HasType node ↔ form.Has node)

namespace Slot

variable {D : Type}

def ofForm {α : Type} (name : String) (required : Bool) (get : D → Option α) (set : D → α → D)
    {decoder : Decoder α} {form : Form α} (reads : decoder.Reads form)
    (get_set : ∀ draft x, get (set draft x) = some x) : Slot D where
  name
  required
  HasType := form.Has
  get
  set
  decoder
  form
  get_set
  reads
  hasType_iff _ _ := Iff.rfl

def field (s : Slot D) : RecordField D := .of s.name s.get s.set s.decoder

/-- Setting one of two slots leaves the other one as it is. -/
def Apart (s t : Slot D) : Prop :=
  (∀ draft x, t.get (s.set draft x) = t.get draft) ∧
    ∀ draft x, s.get (t.set draft x) = s.get draft

instance : Std.Symm (Apart (D := D)) := ⟨fun _ _ h => ⟨h.2, h.1⟩⟩

/-- A tree stands for one value at most. -/
lemma unique (s : Slot D) {node : Node} {x y : s.α} (hfree : node.AliasFree) (hx : s.form node x)
    (hy : s.form node y) : x = y := by
  have hok := (s.reads ⟨none, [], none⟩ [] node hfree x).2 hx
  have hok' := (s.reads ⟨none, [], none⟩ [] node hfree y).2 hy
  rw [hok, Except.ok.injEq] at hok'
  exact hok'

/-- A draft has in a slot what stands under its name, and nothing if nothing does. -/
structure Gives (s : Slot D) (entries : List (Node × Node)) (draft : D) : Prop where
  given : ∀ x, Requires entries s.name s.form x ↔ s.get draft = some x
  absent : (∀ node, ¬Under entries s.name node) ↔ s.get draft = none

section Gives

variable {s : Slot D} {entries : List (Node × Node)} {entry : Node × Node} {draft draft' : D}
  {name : String}

/-- What is left out of a draft has its default. -/
lemma Gives.defaults_iff (h : s.Gives entries draft) (default x : s.α) :
    Defaults entries s.name s.form default x ↔ (s.get draft).getD default = x := by
  unfold Defaults
  rw [h.given, h.absent]
  rcases s.get draft with _ | y
  · simp [eq_comm]
  · simp

lemma under_concat_iff {node : Node} (hname : entry.1.name? = some name) :
    Under (entries ++ [entry]) s.name node ↔
      Under entries s.name node ∨ name = s.name ∧ entry.2 = node := by
  rw [under_append_iff, under_singleton_iff, hname, Option.some.injEq]

/-- An entry under the name of a free slot gives it its value. -/
lemma Gives.set {x : s.α} (h : s.Gives entries draft) (hname : entry.1.name? = some s.name)
    (hfree : entry.2.AliasFree) (hnew : s.get draft = none) (hx : s.form entry.2 x) :
    s.Gives (entries ++ [entry]) (s.set draft x) := by
  have hunder : ∀ node, Under (entries ++ [entry]) s.name node ↔ entry.2 = node := by
    intro node
    rw [under_concat_iff hname, or_iff_right (h.absent.2 hnew node), and_iff_right rfl]
  refine ⟨fun y => ?_, ?_⟩
  · rw [s.get_set, Option.some.injEq]
    unfold Requires
    simp only [hunder, exists_eq_left']
    exact ⟨s.unique hfree hx, fun hxy => hxy ▸ hx⟩
  · rw [s.get_set]
    simp [hunder]

/-- An entry under another name leaves a slot as it is. -/
lemma Gives.concat (h : s.Gives entries draft) (hname : entry.1.name? = some name)
    (hne : name ≠ s.name) (hget : s.get draft' = s.get draft) :
    s.Gives (entries ++ [entry]) draft' := by
  have hunder : ∀ node, Under (entries ++ [entry]) s.name node ↔ Under entries s.name node := by
    intro node
    rw [under_concat_iff hname, or_iff_left fun hother => hne hother.1]
  refine ⟨fun y => ?_, ?_⟩
  · rw [hget, ← h.given]
    simp only [Requires, hunder]
  · rw [hget, ← h.absent]
    simp only [hunder]

end Gives

end Slot

/-- A record: where its fields have their places in drafts, and when it is made of entries. -/
structure Layout (D R : Type) where
  slots : List (Slot D)
  blank : D
  complete : D → Except String R
  /-- Which records are made of entries that fit. -/
  Written : List (Node × Node) → R → Prop
  names_nodup : (slots.map fun s => s.name).Nodup
  get_blank : ∀ s ∈ slots, s.get blank = none
  apart : slots.Pairwise Slot.Apart
  complete_iff : ∀ draft, (∃ record, complete draft = .ok record) ↔
    ∀ s ∈ slots, s.required = true → (s.get draft).isSome = true
  written_iff : ∀ entries draft, (∀ s ∈ slots, s.Gives entries draft) →
    ∀ record, Written entries record ↔ complete draft = .ok record

namespace Layout

variable {D R : Type}

def shapes (layout : Layout D R) : List FieldShape := layout.slots.map Slot.toFieldShape

def decoder (layout : Layout D R) (described : String) : Decoder R :=
  .record described (layout.slots.map Slot.field) layout.blank layout.complete

def form (layout : Layout D R) : Form R := .Record layout.shapes layout.Written

/-! ### Filling drafts -/

section Filling

variable (layout : Layout D R) {entries rest : List (Node × Node)} {entry : Node × Node}
  {draft draft' : D} {s t : Slot D}

/-- What a draft is in the middle of the entries. -/
structure Filled (entries : List (Node × Node)) (draft : D) : Prop where
  named : Named layout.shapes entries
  gives : ∀ s ∈ layout.slots, s.Gives entries draft

variable {layout}

lemma eq_of_name_eq (hs : s ∈ layout.slots) (ht : t ∈ layout.slots) (h : s.name = t.name) :
    s = t :=
  List.inj_on_of_nodup_map layout.names_nodup hs ht h

lemma get_set_of_ne (hs : s ∈ layout.slots) (ht : t ∈ layout.slots) (h : s.name ≠ t.name)
    (draft : D) (x : s.α) : t.get (s.set draft x) = t.get draft :=
  (layout.apart.forall hs ht (ne_of_apply_ne (·.name) h)).1 draft x

lemma find?_field (hs : s ∈ layout.slots) :
    (layout.slots.map Slot.field).find? (·.name = s.name) = some s.field := by
  rcases hfind : (layout.slots.map Slot.field).find? (·.name = s.name) with _ | field
  · have hnone := List.find?_eq_none.1 hfind s.field (List.mem_map_of_mem hs)
    exact absurd (decide_eq_true rfl) hnone
  · obtain ⟨t, ht, rfl⟩ := List.mem_map.1 (List.mem_of_find?_eq_some hfind)
    have hname := List.find?_some hfind
    rw [hfind, eq_of_name_eq ht hs (of_decide_eq_true hname)]

/-- An entry puts a value of the form into the slot that it names, if the slot is free. -/
lemma fill_eq_ok_iff (document : Document) (place : Place) (hkey : entry.1.AliasFree)
    (hvalue : entry.2.AliasFree) :
    RecordField.fill (layout.slots.map Slot.field) document place draft entry = .ok draft' ↔
      ∃ s ∈ layout.slots, entry.1.name? = some s.name ∧ s.get draft = none ∧
        ∃ x, s.form entry.2 x ∧ s.set draft x = draft' := by
  unfold RecordField.fill
  rw [hkey.deref_eq]
  split
  next name _ _ hscalar =>
    have hkeyName : entry.1.name? = some name := name?_eq_some_iff.2 ⟨_, _, hscalar⟩
    rw [hkeyName]
    split
    next hunknown =>
      refine iff_of_false (by simp) ?_
      rintro ⟨s, hs, hname, -⟩
      obtain rfl := Option.some.inj hname
      rw [find?_field hs] at hunknown
      cases hunknown
    next field hfind =>
      obtain ⟨s, hs, rfl⟩ := List.mem_map.1 (List.mem_of_find?_eq_some hfind)
      have hfound := List.find?_some hfind
      obtain rfl : s.name = name := of_decide_eq_true hfound
      have hisSet : s.field.isSet draft = (s.get draft).isSome := rfl
      constructor
      · intro hok
        split_ifs at hok with hset
        obtain ⟨change, hread, rfl⟩ := map_eq_ok_iff.1 hok
        obtain ⟨x, hx, rfl⟩ := map_eq_ok_iff.1 hread
        refine ⟨s, hs, rfl, ?_, x, (s.reads _ _ _ hvalue x).1 hx, rfl⟩
        rwa [hisSet, Option.not_isSome_iff_eq_none] at hset
      · rintro ⟨t, ht, hname, hnew, x, hx, rfl⟩
        -- names are unique, so this is the slot that was found
        obtain rfl := eq_of_name_eq hs ht (Option.some.inj hname)
        rw [hisSet, hnew, if_neg (by simp)]
        refine map_eq_ok_iff.2 ⟨fun draft => s.set draft x, map_eq_ok_iff.2 ⟨x, ?_, rfl⟩, rfl⟩
        exact (s.reads _ _ _ hvalue x).2 hx
  next hother =>
    refine iff_of_false (by simp) ?_
    rintro ⟨s, -, hname, -⟩
    obtain ⟨style, tag, hscalar⟩ := name?_eq_some_iff.1 hname
    exact hother _ style tag hscalar

lemma filled_blank : layout.Filled [] layout.blank where
  named := ⟨by simp, List.nodup_nil⟩
  gives s hs := by
    refine ⟨fun x => ?_, ?_⟩
    · rw [layout.get_blank s hs]
      exact iff_of_false (fun ⟨_, hnode, _⟩ => not_under_nil hnode) (by simp)
    · rw [layout.get_blank s hs]
      exact iff_of_true (fun _ => not_under_nil) rfl

/-- An entry under a name that is new fills the slot of that name. -/
lemma Filled.set {x : s.α} (h : layout.Filled entries draft) (hs : s ∈ layout.slots)
    (hname : entry.1.name? = some s.name) (hfree : entry.2.AliasFree) (hnew : s.get draft = none)
    (hx : s.form entry.2 x) : layout.Filled (entries ++ [entry]) (s.set draft x) where
  named := by
    refine ⟨fun other hother => ?_, ?_⟩
    · rcases List.mem_append.1 hother with hother | hother
      · exact h.named.known other hother
      · obtain rfl := List.mem_singleton.1 hother
        exact ⟨s.toFieldShape, List.mem_map_of_mem hs, hname, (s.hasType_iff _ hfree).2 ⟨x, hx⟩⟩
    · have habsent := ((h.gives s hs).absent).2 hnew
      rw [names_append, names_singleton hname, List.nodup_append']
      refine ⟨h.named.once, List.nodup_singleton _, ?_⟩
      rw [List.disjoint_singleton, mem_names_iff]
      exact fun ⟨node, hnode⟩ => habsent node hnode
  gives t ht := by
    by_cases hst : s.name = t.name
    · obtain rfl := eq_of_name_eq hs ht hst
      exact (h.gives s hs).set hname hfree hnew hx
    · exact (h.gives t ht).concat hname hst (get_set_of_ne hs ht hst draft x)

/-- Where the names of all entries are those of fields, and the values of their types, the slot of
the next entry is free. -/
lemma Filled.exists_set (h : layout.Filled entries draft)
    (hnamed : Named layout.shapes (entries ++ [entry])) (hfree : entry.2.AliasFree) :
    ∃ s ∈ layout.slots, entry.1.name? = some s.name ∧ s.get draft = none ∧
      ∃ x, s.form entry.2 x := by
  obtain ⟨shape, hshape, hname, htype⟩ := hnamed.known entry (by simp)
  obtain ⟨s, hs, rfl⟩ := List.mem_map.1 hshape
  refine ⟨s, hs, hname, ((h.gives s hs).absent).1 fun node hnode => ?_,
    (s.hasType_iff _ hfree).1 htype⟩
  have honce := hnamed.once
  rw [names_append, List.nodup_append'] at honce
  exact honce.2.2 (mem_names_iff.2 ⟨node, hnode⟩)
    (mem_names_iff.2 ⟨entry.2, under_singleton_iff.2 ⟨hname, rfl⟩⟩)

/-- Filling a draft ends well if the entries name fields, and then the draft has what stands in
them. -/
lemma foldlM_fill (document : Document) (place : Place) (h : layout.Filled entries draft)
    (hfree : ∀ entry ∈ rest, entry.1.AliasFree ∧ entry.2.AliasFree) :
    (∀ draft', rest.foldlM (RecordField.fill (layout.slots.map Slot.field) document place) draft =
        .ok draft' → layout.Filled (entries ++ rest) draft') ∧
      (Named layout.shapes (entries ++ rest) → ∃ draft',
        rest.foldlM (RecordField.fill (layout.slots.map Slot.field) document place) draft =
          .ok draft') := by
  induction rest generalizing entries draft with
  | nil =>
    rw [List.append_nil]
    exact ⟨fun draft' hok => Except.ok.inj hok ▸ h, fun _ => ⟨draft, rfl⟩⟩
  | cons entry rest ih =>
    obtain ⟨⟨hkey, hvalue⟩, hrest⟩ := List.forall_mem_cons.1 hfree
    simp only [List.foldlM_cons, bind_eq_ok_iff, fill_eq_ok_iff document place hkey hvalue]
    rw [← List.singleton_append, ← List.append_assoc]
    constructor
    · rintro draft' ⟨middle, ⟨s, hs, hname, hnew, x, hx, rfl⟩, hok⟩
      exact (ih (h.set hs hname hvalue hnew hx) hrest).1 draft' hok
    · intro hnamed
      obtain ⟨s, hs, hname, hnew, x, hx⟩ := h.exists_set (hnamed.of_append) hvalue
      obtain ⟨draft', hok⟩ := (ih (h.set hs hname hvalue hnew hx) hrest).2 hnamed
      exact ⟨draft', _, ⟨s, hs, hname, hnew, x, hx, rfl⟩, hok⟩

end Filling

/-! ### Reading records -/

section Reading

variable {layout : Layout D R} {node : Node} {entries entries' : List (Node × Node)} {draft : D}
  {record : R}

/-- Some draft has just what stands in entries that name fields. -/
lemma exists_filled (hfree : ∀ entry ∈ entries, entry.1.AliasFree ∧ entry.2.AliasFree)
    (hnamed : Named layout.shapes entries) : ∃ draft, layout.Filled entries draft := by
  have hfill := foldlM_fill ⟨none, [], none⟩ [] layout.filled_blank hfree
  obtain ⟨draft, hok⟩ := hfill.2 hnamed
  exact ⟨draft, hfill.1 draft hok⟩

/-- A draft is completed if no required field is left out of the entries that it was filled with. -/
lemma Filled.fits_iff (h : layout.Filled entries draft) :
    Fits layout.shapes entries ↔ ∃ record, layout.complete draft = .ok record := by
  have hpresent : ∀ s ∈ layout.slots,
      (∃ node, Under entries s.name node) ↔ (s.get draft).isSome = true := by
    intro s hs
    rw [← Option.ne_none_iff_isSome, ne_eq, ← (h.gives s hs).absent, not_forall_not]
  rw [layout.complete_iff]
  constructor
  · intro hfits s hs hrequired
    exact (hpresent s hs).1 (hfits.required _ (List.mem_map_of_mem hs) hrequired)
  · intro hall
    refine ⟨h.named, fun shape hshape hrequired => ?_⟩
    obtain ⟨s, hs, rfl⟩ := List.mem_map.1 hshape
    exact (hpresent s hs).2 (hall s hs hrequired)

/-- What a draft is completed to is what the entries say that it was filled with. -/
lemma Filled.made_iff (h : layout.Filled entries draft) :
    Fits layout.shapes entries ∧ layout.Written entries record ↔
      layout.complete draft = .ok record := by
  rw [layout.written_iff entries draft h.gives, h.fits_iff]
  exact and_iff_right_of_imp fun hok => ⟨record, hok⟩

/-- **Records are read** where their entries fit, as what the entries say. -/
theorem reads_record (layout : Layout D R) (described : String) :
    (layout.decoder described).Reads layout.form := by
  intro document place node hfree record
  unfold decoder Decoder.record
  rw [bind_eq_ok_iff]
  refine exists_congr fun entries => ?_
  rw [reads_entries described document place node hfree entries]
  refine and_congr_right fun hentries => ?_
  have hfill := foldlM_fill document place layout.filled_blank (hentries.aliasFree hfree)
  rw [bind_eq_ok_iff]
  constructor
  · rintro ⟨draft, hok, hcomplete⟩
    refine (hfill.1 draft hok).made_iff.2 ?_
    split at hcomplete
    next record' hrecord =>
      obtain rfl := Except.ok.inj hcomplete
      exact hrecord
    next => cases hcomplete
  · rintro ⟨hfits, hwritten⟩
    obtain ⟨draft, hok⟩ := hfill.2 hfits.toNamed
    refine ⟨draft, hok, ?_⟩
    rw [(hfill.1 draft hok).made_iff.1 ⟨hfits, hwritten⟩]

/-- A tree is of the type of records if it stands for one. -/
theorem isRecord_iff (hfree : node.AliasFree) :
    node.IsRecord layout.shapes ↔ layout.form.Has node := by
  constructor
  · rintro ⟨entries, hentries, hfits⟩
    obtain ⟨draft, hfilled⟩ := exists_filled (hentries.aliasFree hfree) hfits.toNamed
    obtain ⟨record, hok⟩ := hfilled.fits_iff.1 hfits
    exact ⟨record, entries, hentries, hfilled.made_iff.2 hok⟩
  · rintro ⟨record, entries, hentries, hfits, -⟩
    exact ⟨entries, hentries, hfits⟩

end Reading

/-! ### Records in other orders -/

section Orders

variable {layout : Layout D R} {node : Node} {entries entries' : List (Node × Node)} {draft : D}
  {s : Slot D}

lemma gives_iff_of_sameEntries (h : SameEntries entries entries')
    (hvalues : ∀ node, Under entries s.name node → s.form.UnorderedAt node) :
    s.Gives entries draft ↔ s.Gives entries' draft := by
  have hrequires : ∀ x, Requires entries s.name s.form x ↔ Requires entries' s.name s.form x :=
    fun x => h.exists_under_iff fun node hnode node' hreordered =>
      hvalues node hnode node' hreordered x
  have hpresent : (∃ node, Under entries s.name node) ↔ ∃ node, Under entries' s.name node := by
    simpa using h.exists_under_iff (P := fun _ => True) fun _ _ _ _ => Iff.rfl
  have habsent := not_congr hpresent
  rw [not_exists, not_exists] at habsent
  constructor
  · exact fun hgives => ⟨fun x => (hrequires x).symm.trans (hgives.given x),
      habsent.symm.trans hgives.absent⟩
  · exact fun hgives => ⟨fun x => (hrequires x).trans (hgives.given x), habsent.trans hgives.absent⟩

/-- Entries in another order name the same fields. -/
lemma named_iff_of_sameEntries (h : SameEntries entries entries')
    (hfree : ∀ entry ∈ entries, entry.1.AliasFree ∧ entry.2.AliasFree)
    (hvalues : ∀ s ∈ layout.slots, ∀ node, Under entries s.name node → s.form.UnorderedAt node) :
    Named layout.shapes entries ↔ Named layout.shapes entries' := by
  have hknown : (∀ entry ∈ entries, ∃ shape ∈ layout.shapes,
      entry.1.name? = some shape.name ∧ shape.HasType entry.2) ↔
      ∀ entry ∈ entries', ∃ shape ∈ layout.shapes,
        entry.1.name? = some shape.name ∧ shape.HasType entry.2 := by
    refine h.forall_iff (P := fun key node => ∃ shape ∈ layout.shapes,
      key.name? = some shape.name ∧ shape.HasType node) fun key node hentry node' hreordered => ?_
    have hnode := (hfree _ hentry).2
    refine exists_congr fun shape => and_congr_right fun hshape => and_congr_right fun hname => ?_
    obtain ⟨s, hs, rfl⟩ := List.mem_map.1 hshape
    rw [s.hasType_iff node hnode, s.hasType_iff node' (hreordered.aliasFree hnode)]
    exact exists_congr (hvalues s hs node ⟨key, hentry, hname⟩ node' hreordered)
  constructor
  · exact fun hnamed => ⟨hknown.1 hnamed.known, h.names.nodup_iff.1 hnamed.once⟩
  · exact fun hnamed => ⟨hknown.2 hnamed.known, h.names.nodup_iff.2 hnamed.once⟩

/-- **The order of entries does not count** for a record if it does not count for the values in its
fields. -/
theorem unorderedAt_record (hfree : node.AliasFree)
    (hvalues : ∀ entries, node.HasEntries entries → ∀ s ∈ layout.slots, ∀ value,
      value.AliasFree → Under entries s.name value → s.form.UnorderedAt value) :
    layout.form.UnorderedAt node := by
  intro node' hreordered record
  refine exists_entries_iff hreordered fun entries entries' hentries hsame => ?_
  have hfrees := hentries.aliasFree hfree
  have hunordered : ∀ s ∈ layout.slots, ∀ value, Under entries s.name value →
      s.form.UnorderedAt value := fun s hs value hvalue =>
    hvalues entries hentries s hs value (hvalue.aliasFree hfrees) hvalue
  have hnamed := named_iff_of_sameEntries hsame hfrees hunordered
  by_cases hnames : Named layout.shapes entries
  · -- The draft filled with the entries in one order is filled with them in the other one.
    obtain ⟨draft, hfilled⟩ := exists_filled hfrees hnames
    have hfilled' : layout.Filled entries' draft := ⟨hnamed.1 hnames, fun s hs =>
      (gives_iff_of_sameEntries hsame (hunordered s hs)).1 (hfilled.gives s hs)⟩
    rw [hfilled.made_iff, hfilled'.made_iff]
  · exact iff_of_false (fun h => hnames h.1.toNamed) fun h => hnames (hnamed.2 h.1.toNamed)

end Orders

end Layout

end SizeSweep.Yaml
