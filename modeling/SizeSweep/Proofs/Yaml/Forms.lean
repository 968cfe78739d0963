import Mathlib.Data.String.Basic
import SizeSweep.Proofs.Yaml.Order
import SizeSweep.Yaml.Decoder

/-!
What decoders read.  A form says which trees stand for which values of a type, without regard to
documents and places, and on trees without aliases a decoder accepts just these.  A tree keeps its
values when entries of mappings in it change places, but for words under keys that are repeated, of
which the last one counts.
-/

namespace SizeSweep.Yaml

/-- Which trees stand for which values of a type. -/
abbrev Form (α : Type) := Node → α → Prop

/-- On trees without aliases, a decoder makes just the values of a form. -/
def Decoder.Reads {α : Type} (decoder : Decoder α) (form : Form α) : Prop :=
  ∀ document place node, node.AliasFree → ∀ x, decoder document place node = .ok x ↔ form node x

/-- A tree stands for a value of a form. -/
def Form.Has {α : Type} (form : Form α) (node : Node) : Prop := ∃ x, form node x

/-- A tree keeps its values of a form in any order of entries. -/
def Form.UnorderedAt {α : Type} (form : Form α) (node : Node) : Prop :=
  ∀ node', node.Reordered node' → ∀ x, form node x ↔ form node' x

/-! ### Forms -/

/-- A tree that only null can be read of: nothing, null or what has the tag of null. -/
inductive Node.MustBeNull : Node → Prop
  | nothing : MustBeNull (.scalar "" .plain none)
  | null {raw : String} (h : Meaning.isNull raw = true) : MustBeNull (.scalar raw .plain none)
  | tagged {raw : String} {tag : Bytes} (h : Meaning.Standard.ofTag? tag = some .null) :
      MustBeNull (.scalar raw .plain (some tag))

/-- A tree of which null is read: nothing or null. -/
inductive Node.IsNull : Node → Prop
  | nothing : IsNull (.scalar "" .plain none)
  | null {raw : String} {tag : Option Bytes} (hnull : Meaning.isNull raw = true)
      (h : MustBeNull (.scalar raw .plain tag)) : IsNull (.scalar raw .plain tag)

/-- A tree of which null is read, or else one of a type. -/
def Node.IsOptional (IsOne : Node → Prop) (node : Node) : Prop :=
  node.IsNull ∨ ¬node.MustBeNull ∧ IsOne node

/-- A tree of which a list is read whose items are of a type. -/
inductive Node.IsList (IsOne : Node → Prop) : Node → Prop
  | nothing {node : Node} (h : node.isNothing = true) : IsList IsOne node
  | sequence {items : List Node} (tag : Option Bytes) (h : ∀ item ∈ items, IsOne item) :
      IsList IsOne (.sequence items tag)

/-- The entries of a tree that can be a mapping, which has none where nothing stands. -/
inductive Node.HasEntries : Node → List (Node × Node) → Prop
  | nothing {node : Node} (h : node.isNothing = true) : HasEntries node []
  | mapping (entries : List (Node × Node)) (tag : Option Bytes) :
      HasEntries (.mapping entries tag) entries

namespace Form

inductive Text : Form String
  | scalar (text : String) (style : ScalarStyle) (tag : Option Bytes) :
      Text (.scalar text style tag) text

/-- A natural number, in a scalar that can be one. -/
inductive Natural : Form Nat
  | scalar {raw : String} {style : ScalarStyle} {tag : Option Bytes} {n : Nat}
      (hstyle : Decoder.canBe .integer style tag = true)
      (hraw : Meaning.natural? raw.toList = some n) : Natural (.scalar raw style tag) n

/-- A natural number below `2 ^ 64`. -/
def Size : Form UInt64 := fun node n => Natural node n.toNat

/-- A natural number below `2 ^ 32`. -/
def Count : Form UInt32 := fun node n => Natural node n.toNat

inductive Boolean : Form Bool
  | scalar {raw : String} {style : ScalarStyle} {tag : Option Bytes} {b : Bool}
      (hstyle : Decoder.canBe .boolean style tag = true)
      (hraw : Meaning.boolean? raw = some b) : Boolean (.scalar raw style tag) b

/-- One of some values by its name: the text of a scalar, or a tag of its own on nothing or null. -/
inductive Variant {α : Type} (variants : List (String × α)) : Form α
  | named {raw : String} {style : ScalarStyle} {tag : Option Bytes} {value : α}
      (htag : tag.bind Meaning.localName? = none) (h : variants.lookup raw = some value) :
      Variant variants (.scalar raw style tag) value
  | tagged {raw name : String} {tag : Option Bytes} {value : α}
      (htag : tag.bind Meaning.localName? = some name) (h : variants.lookup name = some value)
      (hraw : raw = "" ∨ Meaning.isNull raw = true) :
      Variant variants (.scalar raw .plain tag) value

/-- A value of a form, or none where nothing or null stands. -/
inductive Optional {α : Type} (form : Form α) : Form (Option α)
  | null {node : Node} (h : node.IsNull) : Optional form node none
  | value {node : Node} {x : α} (hother : ¬node.MustBeNull) (h : form node x) :
      Optional form node (some x)

/-- A list of values of a form, empty where nothing stands. -/
inductive Items {α : Type} (form : Form α) : Form (List α)
  | nothing {node : Node} (h : node.isNothing = true) : Items form node []
  | sequence {items : List Node} {values : List α} (tag : Option Bytes)
      (h : List.Forall₂ form items values) : Items form (.sequence items tag) values

/-- A word stands under a key, and no entry with that key follows. -/
def LastUnder (entries : List (Node × Node)) (key word : String) : Prop :=
  ∃ before entry after, entries = before ++ entry :: after ∧ Text entry.1 key ∧ Text entry.2 word ∧
    key ∉ names after

/-- The words under the keys of entries, sorted by the keys. -/
structure Words (entries : List (Node × Node)) (words : List (String × String)) : Prop where
  texts : ∀ entry ∈ entries, (∃ key, Text entry.1 key) ∧ ∃ word, Text entry.2 word
  sorted : words.Pairwise fun former latter => former.1 < latter.1
  last : ∀ key word, (key, word) ∈ words ↔ LastUnder entries key word

/-- Words under keys, sorted by the keys. -/
def Dictionary : Form (List (String × String)) := fun node words =>
  ∃ entries, node.HasEntries entries ∧ Words entries words

end Form

/-! ### Results -/

section Results

variable {α β : Type} {result : Except ReadFault α} {y : β}

lemma bind_eq_ok_iff {next : α → Except ReadFault β} :
    (result >>= next) = .ok y ↔ ∃ x, result = .ok x ∧ next x = .ok y := by
  cases result with
  | error fault => simp [bind, Except.bind]
  | ok x => simp [bind, Except.bind]

lemma map_eq_ok_iff {f : α → β} : result.map f = .ok y ↔ ∃ x, result = .ok x ∧ f x = y := by
  cases result with
  | error fault => simp [Except.map]
  | ok x => simp [Except.map]

end Results

/-! ### Reading scalars -/

section Scalars

open Form

lemma reads_text (expected : String) : (Decoder.text expected).Reads Text := by
  intro document place node hfree x
  unfold Decoder.text
  rw [hfree.deref_eq]
  constructor
  · intro h
    cases node with
    | scalar raw style tag =>
      obtain rfl := Except.ok.inj h
      exact .scalar raw style tag
    | _ => cases h
  · rintro ⟨raw, style, tag⟩
    rfl

lemma reads_size (expected : String) : (Decoder.size expected).Reads Size := by
  intro document place node hfree x
  unfold Decoder.size
  rw [hfree.deref_eq]
  constructor
  · intro h
    cases node with
    | scalar raw style tag =>
      simp only at h
      split_ifs at h with hstyle
      split at h
      next n hraw =>
        split_ifs at h with hlt
        obtain rfl := Except.ok.inj h
        refine .scalar hstyle ?_
        rw [hraw, UInt64.toNat_ofNat_of_lt' hlt]
      next => cases h
    | _ => cases h
  · rintro ⟨hstyle, hraw⟩
    simp [hstyle, hraw, UInt64.toNat_lt_size]

lemma reads_count (expected : String) : (Decoder.count expected).Reads Count := by
  intro document place node hfree x
  unfold Decoder.count
  rw [bind_eq_ok_iff]
  constructor
  · rintro ⟨n, hn, h⟩
    split_ifs at h with hlt
    obtain rfl := Except.ok.inj h
    have hsize := (reads_size expected document place node hfree n).1 hn
    rwa [Count, UInt32.toNat_ofNat_of_lt' hlt]
  · intro h
    have hlt : x.toNat < UInt64.size := lt_trans x.toNat_lt_size (by decide)
    have htoNat : (UInt64.ofNat x.toNat).toNat = x.toNat := UInt64.toNat_ofNat_of_lt' hlt
    refine ⟨.ofNat x.toNat, (reads_size expected document place node hfree _).2 ?_, ?_⟩
    · rwa [Size, htoNat]
    · rw [htoNat, if_pos x.toNat_lt_size, UInt32.ofNat_toNat]

lemma reads_boolean : Decoder.boolean.Reads Boolean := by
  intro document place node hfree x
  unfold Decoder.boolean
  rw [hfree.deref_eq]
  constructor
  · intro h
    cases node with
    | scalar raw style tag =>
      simp only at h
      split_ifs at h with hstyle
      split at h
      next b hraw =>
        obtain rfl := Except.ok.inj h
        exact .scalar hstyle hraw
      next => cases h
    | _ => cases h
  · rintro ⟨hstyle, hraw⟩
    simp [hstyle, hraw]

lemma reads_variant {α : Type} (variants : List (String × α)) :
    (Decoder.variant variants).Reads (Variant variants) := by
  intro document place node hfree x
  unfold Decoder.variant
  rw [hfree.deref_eq]
  constructor
  · intro h
    cases node with
    | scalar raw style tag =>
      rcases htag : tag.bind Meaning.localName? with _ | name
      · rcases hvalue : variants.lookup raw with _ | value
        · simp [htag, hvalue] at h
        · obtain rfl : value = x := by simpa [htag, hvalue] using h
          exact .named htag hvalue
      · rcases hvalue : variants.lookup name with _ | value
        · simp [htag, hvalue, bind_eq_ok_iff] at h
        · simp only [htag, hvalue, bind_eq_ok_iff, Except.ok.injEq, exists_eq_left'] at h
          split_ifs at h with hnull
          obtain rfl := Except.ok.inj h
          simp only [Bool.and_eq_true, decide_eq_true_eq, Bool.or_eq_true,
            String.isEmpty_iff] at hnull
          obtain ⟨rfl, hraw⟩ := hnull
          exact .tagged htag hvalue hraw
    | sequence items tag =>
      rcases htag : tag.bind Meaning.localName? with _ | name
      · simp [htag] at h
      · simp [htag, bind_eq_ok_iff] at h
    | mapping entries tag =>
      rcases htag : tag.bind Meaning.localName? with _ | name
      · simp [htag] at h
      · simp [htag, bind_eq_ok_iff] at h
    | reference position => cases h
    | cut fault => cases h
  · intro h
    cases h with
    | named htag hvalue => simp [htag, hvalue]
    | tagged htag hvalue hraw =>
      simp [htag, hvalue, hraw, bind, Except.bind]

end Scalars

/-! ### Reading optional values -/

section Optional

variable {α : Type} {decoder : Decoder α} {form : Form α} {document : Document} {place : Place}
  {node : Node} {x : Option α}

lemma optional_eq_map (hfree : node.AliasFree) (hother : ¬node.MustBeNull) :
    Decoder.optional decoder document place node = (decoder document place node).map some := by
  unfold Decoder.optional
  rw [hfree.deref_eq]
  split
  next raw tag =>
    rcases tag with _ | tag
    · refine if_neg fun h => hother ?_
      rw [Bool.or_eq_true, String.isEmpty_iff] at h
      rcases h with rfl | hnull
      · exact .nothing
      · exact .null hnull
    · exact if_neg fun htag => hother (.tagged htag)
  next => rfl

/-- Where only null can be, no value is asked for. -/
lemma optional_eq_ok_iff_of_mustBeNull (hmust : node.MustBeNull) :
    Decoder.optional decoder document place node = .ok x ↔ node.IsNull ∧ none = x := by
  cases hmust with
  | nothing => simp [Decoder.optional, Document.deref, Node.IsNull.nothing]
  | null hnull =>
    simp [Decoder.optional, Document.deref, hnull, Node.IsNull.null hnull (.null hnull)]
  | @tagged raw tag htag =>
    have hiff : Node.IsNull (.scalar raw .plain (some tag)) ↔ Meaning.isNull raw = true := by
      refine ⟨fun h => ?_, fun hnull => .null hnull (.tagged htag)⟩
      cases h with
      | null hnull => exact hnull
    by_cases hnull : Meaning.isNull raw = true <;>
      simp [hiff, Decoder.optional, Document.deref, htag, hnull]

lemma Node.IsNull.mustBeNull (h : node.IsNull) : node.MustBeNull := by
  cases h with
  | nothing => exact .nothing
  | null _ hmust => exact hmust

lemma optional_iff_of_mustBeNull (hmust : node.MustBeNull) :
    Form.Optional form node x ↔ node.IsNull ∧ none = x := by
  constructor
  · intro h
    cases h with
    | null hnull => exact ⟨hnull, rfl⟩
    | value hother => exact absurd hmust hother
  · rintro ⟨hnull, rfl⟩
    exact .null hnull

lemma optional_iff_of_not_mustBeNull (hother : ¬node.MustBeNull) :
    Form.Optional form node x ↔ ∃ y, form node y ∧ some y = x := by
  constructor
  · intro h
    cases h with
    | null hnull => exact absurd hnull.mustBeNull hother
    | value _ hform => exact ⟨_, hform, rfl⟩
  · rintro ⟨y, hform, rfl⟩
    exact .value hother hform

lemma reads_optional (h : decoder.Reads form) :
    (Decoder.optional decoder).Reads (Form.Optional form) := by
  intro document place node hfree x
  by_cases hmust : node.MustBeNull
  · rw [optional_eq_ok_iff_of_mustBeNull hmust, optional_iff_of_mustBeNull hmust]
  · rw [optional_eq_map hfree hmust, optional_iff_of_not_mustBeNull hmust, map_eq_ok_iff]
    exact exists_congr fun y => and_congr_left' (h document place node hfree y)

lemma isOptional_iff {IsOne : Node → Prop} (h : IsOne node ↔ form.Has node) :
    node.IsOptional IsOne ↔ (Form.Optional form).Has node := by
  unfold Node.IsOptional
  rw [h]
  constructor
  · rintro (hnull | ⟨hother, y, hform⟩)
    · exact ⟨none, .null hnull⟩
    · exact ⟨some y, .value hother hform⟩
  · rintro ⟨x, hx⟩
    cases hx with
    | null hnull => exact Or.inl hnull
    | value hother hform => exact Or.inr ⟨hother, _, hform⟩

end Optional

/-! ### Reading collections -/

section Collections

variable {α : Type} {decoder : Decoder α} {form : Form α}

lemma items_sequence_iff {items : List Node} {tag : Option Bytes} {values : List α} :
    Form.Items form (.sequence items tag) values ↔ List.Forall₂ form items values := by
  refine ⟨fun h => ?_, .sequence tag⟩
  cases h with
  | nothing hnothing => cases hnothing
  | sequence _ hvalues => exact hvalues

lemma items_eq_ok_iff (h : decoder.Reads form) (document : Document) (place : Place) (index : ℕ)
    {nodes : List Node} (hfree : ∀ node ∈ nodes, node.AliasFree) {values : List α} :
    Decoder.items decoder document place index nodes = .ok values ↔
      List.Forall₂ form nodes values := by
  induction nodes generalizing index values with
  | nil =>
    rw [Decoder.items, Except.ok.injEq, List.forall₂_nil_left_iff]
    exact eq_comm
  | cons node rest ih =>
    obtain ⟨hnode, hrest⟩ := List.forall_mem_cons.1 hfree
    simp only [Decoder.items, bind_eq_ok_iff, List.forall₂_cons_left_iff, h _ _ _ hnode, ih _ hrest,
      pure, Except.pure, Except.ok.injEq]
    constructor
    · rintro ⟨value, hvalue, others, hothers, rfl⟩
      exact ⟨value, others, hvalue, hothers, rfl⟩
    · rintro ⟨value, others, hvalue, hothers, rfl⟩
      exact ⟨value, hvalue, others, hothers, rfl⟩

lemma reads_list (h : decoder.Reads form) : (Decoder.list decoder).Reads (Form.Items form) := by
  intro document place node hfree values
  unfold Decoder.list
  rw [hfree.deref_eq]
  split
  next nodes tag =>
    rw [items_eq_ok_iff h document place 0 (Node.aliasFree_sequence_iff.1 hfree),
      items_sequence_iff]
  next hother =>
    constructor
    · intro hok
      split_ifs at hok with hnothing
      obtain rfl := Except.ok.inj hok
      exact .nothing hnothing
    · intro hitems
      cases hitems with
      | nothing hnothing => rw [if_pos hnothing]
      | sequence tag => exact absurd rfl (hother _ tag)

lemma forall₂_iff_forall_has {items : List Node} :
    (∃ values, List.Forall₂ form items values) ↔ ∀ item ∈ items, form.Has item := by
  induction items with
  | nil => simp
  | cons item rest ih =>
    rw [List.forall_mem_cons, ← ih]
    constructor
    · rintro ⟨_, hvalues⟩
      obtain ⟨value, values, hvalue, hvalues, -⟩ := List.forall₂_cons_left_iff.1 hvalues
      exact ⟨⟨value, hvalue⟩, values, hvalues⟩
    · rintro ⟨⟨value, hvalue⟩, values, hvalues⟩
      exact ⟨value :: values, .cons hvalue hvalues⟩

lemma isList_iff {IsOne : Node → Prop} {node : Node} (hfree : node.AliasFree)
    (h : ∀ item, item.AliasFree → (IsOne item ↔ form.Has item)) :
    node.IsList IsOne ↔ (Form.Items form).Has node := by
  constructor
  · intro hlist
    cases hlist with
    | nothing hnothing => exact ⟨[], .nothing hnothing⟩
    | sequence tag hitems =>
      rw [Node.aliasFree_sequence_iff] at hfree
      obtain ⟨values, hvalues⟩ := forall₂_iff_forall_has.2 fun item hitem =>
        (h item (hfree item hitem)).1 (hitems item hitem)
      exact ⟨values, .sequence tag hvalues⟩
  · rintro ⟨values, hitems⟩
    cases hitems with
    | nothing hnothing => exact .nothing hnothing
    | sequence tag hvalues =>
      rw [Node.aliasFree_sequence_iff] at hfree
      exact .sequence tag fun item hitem =>
        (h item (hfree item hitem)).2 (forall₂_iff_forall_has.1 ⟨values, hvalues⟩ item hitem)

@[simp]
lemma hasEntries_mapping_iff {entries listed : List (Node × Node)} {tag : Option Bytes} :
    Node.HasEntries (.mapping entries tag) listed ↔ listed = entries := by
  constructor
  · intro h
    cases h with
    | nothing hnothing => cases hnothing
    | mapping => rfl
  · rintro rfl
    exact .mapping listed tag

lemma reads_entries (expected : String) : (Decoder.entries expected).Reads Node.HasEntries := by
  intro document place node hfree entries
  unfold Decoder.entries
  rw [hfree.deref_eq]
  split
  next listed tag =>
    rw [Except.ok.injEq, hasEntries_mapping_iff]
    exact eq_comm
  next hother =>
    constructor
    · intro hok
      split_ifs at hok with hnothing
      obtain rfl := Except.ok.inj hok
      exact .nothing hnothing
    · intro hentries
      cases hentries with
      | nothing hnothing => rw [if_pos hnothing]
      | mapping _ tag => exact absurd rfl (hother _ tag)

lemma Node.HasEntries.aliasFree {node : Node} {entries : List (Node × Node)}
    (h : node.HasEntries entries) (hfree : node.AliasFree) :
    ∀ entry ∈ entries, entry.1.AliasFree ∧ entry.2.AliasFree := by
  cases h with
  | nothing => simp
  | mapping => exact Node.aliasFree_mapping_iff.1 hfree

end Collections

/-! ### Sorted words -/

section Words

open Form

variable {words words' : List (String × String)} {entries : List (Node × Node)}
  {key word key' word' : String}

lemma mem_insertSorted_iff (hsorted : words.Pairwise fun former latter => former.1 < latter.1) :
    (key', word') ∈ Decoder.insertSorted key word words ↔
      key' = key ∧ word' = word ∨ key' ≠ key ∧ (key', word') ∈ words := by
  induction words with
  | nil => simp [Decoder.insertSorted]
  | cons entry rest ih =>
    obtain ⟨hhead, hrest⟩ := List.pairwise_cons.1 hsorted
    unfold Decoder.insertSorted
    split_ifs with hlt heq
    · -- the key goes in front of all others
      have hother : (key', word') ∈ entry :: rest → key' ≠ key := by
        rintro hmem rfl
        rcases List.mem_cons.1 hmem with rfl | hmem
        · exact lt_irrefl _ hlt
        · exact lt_asymm hlt (hhead _ hmem)
      rw [List.mem_cons, Prod.mk.injEq, and_iff_right_of_imp hother]
    · -- the word of the same key is replaced
      have hother : (key', word') ∈ rest → key' ≠ key := by
        rintro hmem rfl
        exact lt_irrefl _ (heq ▸ hhead _ hmem)
      rw [List.mem_cons, Prod.mk.injEq, List.mem_cons, and_or_left]
      have hentry : ¬(key' ≠ key ∧ (key', word') = entry) := by
        rintro ⟨hne, rfl⟩
        exact hne heq.symm
      rw [or_iff_right hentry, and_iff_right_of_imp hother]
    · -- the key goes somewhere behind the first one
      rw [List.mem_cons, ih hrest, List.mem_cons, and_or_left]
      have hentry : (key', word') = entry → key' ≠ key := by
        rintro rfl rfl
        exact heq rfl
      rw [and_iff_right_of_imp hentry]
      exact or_left_comm

lemma pairwise_insertSorted (key word : String)
    (hsorted : words.Pairwise fun former latter => former.1 < latter.1) :
    (Decoder.insertSorted key word words).Pairwise fun former latter => former.1 < latter.1 := by
  induction words with
  | nil => exact List.pairwise_singleton _ _
  | cons entry rest ih =>
    obtain ⟨hhead, hrest⟩ := List.pairwise_cons.1 hsorted
    unfold Decoder.insertSorted
    split_ifs with hlt heq
    · refine List.pairwise_cons.2 ⟨fun other hother => ?_, hsorted⟩
      rcases List.mem_cons.1 hother with rfl | hother
      · exact hlt
      · exact lt_trans hlt (hhead other hother)
    · subst heq
      exact List.pairwise_cons.2 ⟨hhead, hrest⟩
    · refine List.pairwise_cons.2 ⟨fun other hother => ?_, ih hrest⟩
      rcases (mem_insertSorted_iff hrest).1 hother with ⟨hkey, -⟩ | ⟨-, hother⟩
      · rw [hkey]
        exact lt_of_le_of_ne (not_lt.1 hlt) fun heq' => heq heq'.symm
      · exact hhead other hother

/-- Sorted words are determined by what they are. -/
lemma eq_of_mem_iff (hsorted : words.Pairwise fun former latter => former.1 < latter.1)
    (hsorted' : words'.Pairwise fun former latter => former.1 < latter.1)
    (h : ∀ key word, (key, word) ∈ words ↔ (key, word) ∈ words') : words = words' := by
  have hnodup := hsorted.imp fun hlt => ne_of_apply_ne Prod.fst hlt.ne
  have hnodup' := hsorted'.imp fun hlt => ne_of_apply_ne Prod.fst hlt.ne
  refine List.Perm.eq_of_pairwise (fun _ _ _ _ hlt hgt => ?_) hsorted hsorted'
    ((List.perm_ext_iff_of_nodup hnodup hnodup').2 fun entry => h entry.1 entry.2)
  exact absurd hlt (lt_asymm hgt)

lemma text_iff {node : Node} {text : String} : Text node text ↔ node.name? = some text := by
  rw [name?_eq_some_iff]
  constructor
  · rintro ⟨style, tag⟩
    exact ⟨_, _, rfl⟩
  · rintro ⟨style, tag, rfl⟩
    exact .scalar text style tag

lemma Form.Text.unique {node : Node} {text text' : String} (h : Text node text)
    (h' : Text node text') : text = text' :=
  Option.some.inj ((text_iff.1 h).symm.trans (text_iff.1 h'))

lemma not_lastUnder_nil : ¬LastUnder [] key word := by
  rintro ⟨before, entry, after, hsplit, -⟩
  simp at hsplit

lemma lastUnder_concat_iff {entry : Node × Node} (hkey : Text entry.1 key)
    (hword : Text entry.2 word) :
    LastUnder (entries ++ [entry]) key' word' ↔
      key' = key ∧ word' = word ∨ key' ≠ key ∧ LastUnder entries key' word' := by
  have hnames := names_singleton (text_iff.1 hkey)
  constructor
  · rintro ⟨before, other, after, hsplit, hkey', hword', hlast⟩
    rcases List.eq_nil_or_concat after with rfl | ⟨after, latest, rfl⟩
    · obtain ⟨-, hother⟩ := List.append_inj' hsplit rfl
      obtain rfl := List.singleton_inj.1 hother
      exact Or.inl ⟨hkey'.unique hkey, hword'.unique hword⟩
    · -- an earlier entry, whose name the latest one does not repeat
      rw [List.concat_eq_append, ← List.cons_append, ← List.append_assoc] at hsplit
      obtain ⟨rfl, hlatest⟩ := List.append_inj' hsplit rfl
      rw [List.concat_eq_append, ← hlatest, names_append, hnames, List.mem_append,
        List.mem_singleton, not_or] at hlast
      exact Or.inr ⟨hlast.2, before, other, after, rfl, hkey', hword', hlast.1⟩
  · rintro (⟨rfl, rfl⟩ | ⟨hne, before, other, after, rfl, hkey', hword', hlast⟩)
    · exact ⟨entries, entry, [], rfl, hkey, hword, List.not_mem_nil⟩
    · refine ⟨before, other, after ++ [entry], by simp, hkey', hword', ?_⟩
      rw [names_append, hnames, List.mem_append, List.mem_singleton, not_or]
      exact ⟨hlast, hne⟩

lemma words_nil : Words [] [] where
  texts := by simp
  sorted := .nil
  last key word := iff_of_false List.not_mem_nil not_lastUnder_nil

/-- One more entry puts its word among the sorted ones. -/
lemma Form.Words.concat {entry : Node × Node} (h : Words entries words) (hkey : Text entry.1 key)
    (hword : Text entry.2 word) :
    Words (entries ++ [entry]) (Decoder.insertSorted key word words) where
  texts := by
    intro other hother
    rcases List.mem_append.1 hother with hother | hother
    · exact h.texts other hother
    · obtain rfl := List.mem_singleton.1 hother
      exact ⟨⟨key, hkey⟩, word, hword⟩
  sorted := pairwise_insertSorted key word h.sorted
  last key' word' := by
    rw [mem_insertSorted_iff h.sorted, lastUnder_concat_iff hkey hword, h.last]

lemma Form.Words.unique (h : Words entries words) (h' : Words entries words') : words = words' :=
  eq_of_mem_iff h.sorted h'.sorted fun key word => (h.last key word).trans (h'.last key word).symm

/-- A step that puts the word of an entry among sorted words puts in all of them. -/
lemma foldlM_words {rest : List (Node × Node)}
    {step : List (String × String) → Node × Node → Except ReadFault (List (String × String))}
    (hstep : ∀ entry ∈ rest, ∀ words words', step words entry = .ok words' ↔
      ∃ key word, Text entry.1 key ∧ Text entry.2 word ∧
        Decoder.insertSorted key word words = words')
    (h : Words entries words) :
    rest.foldlM step words = .ok words' ↔ Words (entries ++ rest) words' := by
  induction rest generalizing entries words with
  | nil =>
    rw [List.foldlM_nil, List.append_nil]
    exact ⟨fun hok => Except.ok.inj hok ▸ h, fun h' => congrArg Except.ok (h.unique h')⟩
  | cons entry rest ih =>
    obtain ⟨hentry, hrest⟩ := List.forall_mem_cons.1 hstep
    rw [List.foldlM_cons, bind_eq_ok_iff, ← List.singleton_append, ← List.append_assoc]
    constructor
    · rintro ⟨middle, hmiddle, hok⟩
      obtain ⟨key, word, hkey, hword, rfl⟩ := (hentry words middle).1 hmiddle
      exact (ih hrest (h.concat hkey hword)).1 hok
    · intro h'
      obtain ⟨⟨key, hkey⟩, word, hword⟩ := h'.texts entry (by simp)
      exact ⟨_, (hentry words _).2 ⟨key, word, hkey, hword, rfl⟩,
        (ih hrest (h.concat hkey hword)).2 h'⟩

lemma reads_dictionary : Decoder.dictionary.Reads Dictionary := by
  intro document place node hfree words
  unfold Decoder.dictionary
  rw [bind_eq_ok_iff]
  refine exists_congr fun entries => ?_
  rw [reads_entries "a map" document place node hfree entries]
  refine and_congr_right fun hentries => ?_
  have hfrees := hentries.aliasFree hfree
  refine foldlM_words (fun entry hentry words words' => ?_) words_nil
  obtain ⟨hkey, hvalue⟩ := hfrees entry hentry
  simp only [bind_eq_ok_iff, reads_text _ _ _ _ hkey, reads_text _ _ _ _ hvalue, pure, Except.pure,
    Except.ok.injEq]
  simp only [exists_and_left]

end Words

/-! ### Other orders -/

section Orders

open Form

variable {α : Type} {form : Form α} {node node' : Node}

/-- A scalar is the same in any order, and nothing else becomes a scalar. -/
lemma unorderedAt_of_scalar
    (h : ∀ node x, form node x → ∃ text style tag, node = .scalar text style tag) (node : Node) :
    form.UnorderedAt node := by
  intro node' hreordered x
  cases hreordered with
  | refl => rfl
  | sequence =>
    exact iff_of_false (fun hx => by simpa using h _ _ hx) fun hx => by simpa using h _ _ hx
  | mapping =>
    exact iff_of_false (fun hx => by simpa using h _ _ hx) fun hx => by simpa using h _ _ hx

lemma unorderedAt_text (node : Node) : Text.UnorderedAt node :=
  unorderedAt_of_scalar (fun _ _ ⟨text, style, tag⟩ => ⟨text, style, tag, rfl⟩) node

lemma unorderedAt_size (node : Node) : Size.UnorderedAt node :=
  unorderedAt_of_scalar (fun _ _ ⟨_, _⟩ => ⟨_, _, _, rfl⟩) node

lemma unorderedAt_count (node : Node) : Count.UnorderedAt node :=
  unorderedAt_of_scalar (fun _ _ ⟨_, _⟩ => ⟨_, _, _, rfl⟩) node

lemma unorderedAt_boolean (node : Node) : Boolean.UnorderedAt node :=
  unorderedAt_of_scalar (fun _ _ ⟨_, _⟩ => ⟨_, _, _, rfl⟩) node

lemma unorderedAt_variant (variants : List (String × α)) (node : Node) :
    (Variant variants).UnorderedAt node := by
  refine unorderedAt_of_scalar (fun _ _ h => ?_) node
  cases h with
  | named => exact ⟨_, _, _, rfl⟩
  | tagged => exact ⟨_, _, _, rfl⟩

lemma unorderedAt_optional (h : form.UnorderedAt node) : (Optional form).UnorderedAt node := by
  intro node' hreordered x
  have hvalue : ∀ y, form node y ↔ form node' y := h node' hreordered
  have hcollection (hother : ¬node.MustBeNull) (hother' : ¬node'.MustBeNull) :
      Optional form node x ↔ Optional form node' x := by
    rw [optional_iff_of_not_mustBeNull hother, optional_iff_of_not_mustBeNull hother']
    exact exists_congr fun y => and_congr_left' (hvalue y)
  cases hreordered with
  | refl => rfl
  | sequence => exact hcollection (by rintro ⟨⟩) (by rintro ⟨⟩)
  | mapping => exact hcollection (by rintro ⟨⟩) (by rintro ⟨⟩)

lemma forall₂_congr_left {items items' : List Node} {values : List α}
    (h : List.Forall₂ (fun item item' => ∀ x, form item x ↔ form item' x) items items') :
    List.Forall₂ form items values ↔ List.Forall₂ form items' values := by
  induction h generalizing values with
  | nil => rfl
  | cons hhead _ ih => simp only [List.forall₂_cons_left_iff, hhead, ih]

lemma unorderedAt_items (hfree : node.AliasFree)
    (h : ∀ item, item.AliasFree → form.UnorderedAt item) : (Items form).UnorderedAt node := by
  intro node' hreordered values
  cases hreordered with
  | refl => rfl
  | @sequence items items' tag hlength hitems =>
    rw [items_sequence_iff, items_sequence_iff]
    refine forall₂_congr_left (List.forall₂_iff_zip.2 ⟨hlength, fun hpair => ?_⟩)
    exact h _ (Node.aliasFree_sequence_iff.1 hfree _ (List.of_mem_zip hpair).1) _ (hitems _ hpair)
  | mapping =>
    refine iff_of_false (fun hitems => ?_) fun hitems => ?_
    · cases hitems with
      | nothing hnothing => cases hnothing
    · cases hitems with
      | nothing hnothing => cases hnothing

/-- In another order, a tree has the same entries. -/
lemma exists_entries_iff {P : List (Node × Node) → Prop} (hreordered : node.Reordered node')
    (hP : ∀ entries entries', node.HasEntries entries → SameEntries entries entries' →
      (P entries ↔ P entries')) :
    (∃ entries, node.HasEntries entries ∧ P entries) ↔
      ∃ entries', node'.HasEntries entries' ∧ P entries' := by
  cases hreordered with
  | refl => rfl
  | sequence =>
    refine iff_of_false ?_ ?_ <;> rintro ⟨entries, ⟨hnothing⟩, -⟩ <;> cases hnothing
  | @mapping entries moved entries' tag hmoved hkeys hvalues =>
    simp only [hasEntries_mapping_iff, exists_eq_left]
    exact hP entries entries' (.mapping entries tag) (sameEntries_of_moved hmoved hkeys hvalues)

/-- Under a key that is not repeated, the only word is the last. -/
lemma lastUnder_iff {entries : List (Node × Node)} {key word : String}
    (hnames : (names entries).Nodup) :
    LastUnder entries key word ↔ ∃ node, Under entries key node ∧ Text node word := by
  constructor
  · rintro ⟨before, entry, after, rfl, hkey, hword, -⟩
    exact ⟨entry.2, ⟨entry.1, by simp, text_iff.1 hkey⟩, hword⟩
  · rintro ⟨node, ⟨keyNode, hentry, hkey⟩, hword⟩
    obtain ⟨before, after, rfl⟩ := List.append_of_mem hentry
    refine ⟨before, (keyNode, node), after, rfl, text_iff.2 hkey, hword, fun hlater => ?_⟩
    rw [← List.singleton_append, ← List.append_assoc, names_append, List.nodup_append'] at hnames
    exact hnames.2.2 (mem_names_iff.2 ⟨node, keyNode, by simp, hkey⟩) hlater

lemma words_iff_of_sameEntries {entries entries' : List (Node × Node)}
    {words : List (String × String)} (h : SameEntries entries entries')
    (hnames : (names entries).Nodup) : Words entries words ↔ Words entries' words := by
  have htexts : (∀ entry ∈ entries, (∃ key, Text entry.1 key) ∧ ∃ word, Text entry.2 word) ↔
      ∀ entry ∈ entries', (∃ key, Text entry.1 key) ∧ ∃ word, Text entry.2 word := by
    refine h.forall_iff (P := fun key node => (∃ text, Text key text) ∧ ∃ word, Text node word)
      fun key node _ node' hvalue => and_congr_right' ?_
    exact exists_congr fun word => unorderedAt_text node node' hvalue word
  have hlast : ∀ key word, LastUnder entries key word ↔ LastUnder entries' key word := by
    intro key word
    rw [lastUnder_iff hnames, lastUnder_iff (h.names.nodup_iff.1 hnames)]
    exact h.exists_under_iff fun node _ node' hvalue => unorderedAt_text node node' hvalue word
  constructor
  · intro hwords
    exact ⟨htexts.1 hwords.texts, hwords.sorted, fun key word =>
      (hwords.last key word).trans (hlast key word)⟩
  · intro hwords
    exact ⟨htexts.2 hwords.texts, hwords.sorted, fun key word =>
      (hwords.last key word).trans (hlast key word).symm⟩

lemma unorderedAt_dictionary
    (hnames : ∀ entries, node.HasEntries entries → (names entries).Nodup) :
    Dictionary.UnorderedAt node := by
  intro node' hreordered words
  exact exists_entries_iff hreordered fun entries entries' hentries hsame =>
    words_iff_of_sameEntries hsame (hnames entries hentries)

end Orders

end SizeSweep.Yaml
