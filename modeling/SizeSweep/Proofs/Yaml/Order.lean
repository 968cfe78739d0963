import Mathlib.Data.List.Forall2
import Mathlib.Data.List.Nodup
import SizeSweep.Yaml.Node

/-!
Trees whose mappings have their entries in different orders.  What stands under a name in one of
them is found, in another order itself perhaps, under that name in the other one.
-/

namespace SizeSweep.Yaml

/-- The text of a scalar, as which it names an entry. -/
def Node.name? : Node → Option String
  | .scalar text _ _ => some text
  | _ => none

def names (entries : List (Node × Node)) : List String :=
  entries.filterMap fun entry => entry.1.name?

/-- A node is the value of an entry with a name. -/
def Under (entries : List (Node × Node)) (name : String) (node : Node) : Prop :=
  ∃ key, (key, node) ∈ entries ∧ key.name? = some name

/-- A tree in which no alias stands. -/
inductive Node.AliasFree : Node → Prop
  | scalar (text : String) (style : ScalarStyle) (tag : Option Bytes) :
      AliasFree (.scalar text style tag)
  | sequence {items : List Node} (tag : Option Bytes) (hitems : ∀ item ∈ items, AliasFree item) :
      AliasFree (.sequence items tag)
  | mapping {entries : List (Node × Node)} (tag : Option Bytes)
      (hkeys : ∀ entry ∈ entries, AliasFree entry.1)
      (hvalues : ∀ entry ∈ entries, AliasFree entry.2) : AliasFree (.mapping entries tag)
  | cut (fault : Fault) : AliasFree (.cut fault)

/-- The second tree comes from the first one by putting the entries of mappings, at any depth, in
other orders. -/
inductive Node.Reordered : Node → Node → Prop
  | refl (node : Node) : Reordered node node
  | sequence {items items' : List Node} (tag : Option Bytes)
      (hlength : items.length = items'.length)
      (hitems : ∀ pair ∈ items.zip items', Reordered pair.1 pair.2) :
      Reordered (.sequence items tag) (.sequence items' tag)
  | mapping {entries moved entries' : List (Node × Node)} (tag : Option Bytes)
      (hmoved : entries.Perm moved) (hkeys : moved.map Prod.fst = entries'.map Prod.fst)
      (hvalues : ∀ pair ∈ moved.zip entries', Reordered pair.1.2 pair.2.2) :
      Reordered (.mapping entries tag) (.mapping entries' tag)

/-! ### Names -/

section Names

variable {entries before after : List (Node × Node)} {name : String} {node : Node}

lemma name?_eq_some_iff :
    node.name? = some name ↔ ∃ style tag, node = .scalar name style tag := by
  cases node with
  | scalar text style tag => simp [Node.name?]
  | _ => simp [Node.name?]

lemma names_append : names (before ++ after) = names before ++ names after := by
  unfold names
  exact List.filterMap_append

lemma names_singleton {entry : Node × Node} (h : entry.1.name? = some name) :
    names [entry] = [name] := by
  simp [names, h]

lemma mem_names_iff : name ∈ names entries ↔ ∃ node, Under entries name node := by
  unfold names Under
  rw [List.mem_filterMap]
  constructor
  · rintro ⟨⟨key, node⟩, hentry, hkey⟩
    exact ⟨node, key, hentry, hkey⟩
  · rintro ⟨node, key, hentry, hkey⟩
    exact ⟨(key, node), hentry, hkey⟩

lemma not_under_nil : ¬Under [] name node := by
  rintro ⟨key, hentry, -⟩
  cases hentry

lemma under_append_iff :
    Under (before ++ after) name node ↔ Under before name node ∨ Under after name node := by
  unfold Under
  simp only [List.mem_append, or_and_right, exists_or]

lemma under_singleton_iff {entry : Node × Node} :
    Under [entry] name node ↔ entry.1.name? = some name ∧ entry.2 = node := by
  unfold Under
  constructor
  · rintro ⟨key, hentry, hkey⟩
    obtain rfl := List.mem_singleton.1 hentry
    exact ⟨hkey, rfl⟩
  · rintro ⟨hkey, rfl⟩
    exact ⟨entry.1, List.mem_singleton.2 rfl, hkey⟩

lemma under_cons_iff {entry : Node × Node} : Under (entry :: entries) name node ↔
    entry.1.name? = some name ∧ entry.2 = node ∨ Under entries name node := by
  rw [← List.singleton_append, under_append_iff, under_singleton_iff]

end Names

namespace Node

/-! ### Trees without aliases -/

section AliasFree

variable {node : Node} {items : List Node} {entries : List (Node × Node)} {tag : Option Bytes}

@[simp]
lemma aliasFree_scalar {text : String} {style : ScalarStyle} :
    AliasFree (.scalar text style tag) :=
  .scalar text style tag

@[simp]
lemma aliasFree_sequence_iff :
    AliasFree (.sequence items tag) ↔ ∀ item ∈ items, item.AliasFree := by
  refine ⟨fun h => ?_, .sequence tag⟩
  cases h with
  | sequence _ hitems => exact hitems

@[simp]
lemma aliasFree_mapping_iff :
    AliasFree (.mapping entries tag) ↔
      ∀ entry ∈ entries, entry.1.AliasFree ∧ entry.2.AliasFree := by
  constructor
  · intro h
    cases h with
    | mapping _ hkeys hvalues =>
      exact fun entry hentry => ⟨hkeys entry hentry, hvalues entry hentry⟩
  · exact fun h => .mapping tag (fun entry hentry => (h entry hentry).1)
      fun entry hentry => (h entry hentry).2

/-- Without aliases a node is looked at as it is. -/
lemma AliasFree.deref_eq (h : node.AliasFree) (document : Document) :
    document.deref node = node := by
  cases h <;> rfl

end AliasFree

end Node

/-! ### Other orders -/

/-- Entries with the same keys that have, but for the order inside, the same values under them. -/
structure SameEntries (entries entries' : List (Node × Node)) : Prop where
  names : (names entries).Perm (names entries')
  forth : ∀ key node, (key, node) ∈ entries →
    ∃ node', (key, node') ∈ entries' ∧ node.Reordered node'
  back : ∀ key node', (key, node') ∈ entries' →
    ∃ node, (key, node) ∈ entries ∧ node.Reordered node'

section Reordered

variable {node node' : Node} {items items' : List Node}
  {entries entries' moved : List (Node × Node)} {name : String}

lemma exists_of_mem_forall₂ {α β : Type} {R : α → β → Prop} {xs : List α} {ys : List β} {x : α}
    (h : List.Forall₂ R xs ys) (hx : x ∈ xs) : ∃ y ∈ ys, R x y := by
  induction h with
  | nil => cases hx
  | @cons head other tail others hhead _ ih =>
    rcases List.mem_cons.1 hx with rfl | hx
    · exact ⟨other, List.mem_cons_self, hhead⟩
    · obtain ⟨y, hy, hR⟩ := ih hx
      exact ⟨y, List.mem_cons_of_mem other hy, hR⟩

lemma SameEntries.refl (entries : List (Node × Node)) : SameEntries entries entries where
  names := .refl _
  forth _ node hentry := ⟨node, hentry, .refl node⟩
  back _ node hentry := ⟨node, hentry, .refl node⟩

lemma forall₂_of_values {R : Node → Node → Prop}
    (hkeys : moved.map Prod.fst = entries'.map Prod.fst)
    (hvalues : ∀ pair ∈ moved.zip entries', R pair.1.2 pair.2.2) :
    List.Forall₂ (fun entry entry' => entry.1 = entry'.1 ∧ R entry.2 entry'.2) moved entries' := by
  have hkeys' : List.Forall₂ (fun entry entry' => entry.1 = entry'.1) moved entries' := by
    rwa [← List.forall₂_eq_eq_eq, List.forall₂_map_left_iff, List.forall₂_map_right_iff] at hkeys
  rw [List.forall₂_iff_zip] at hkeys' ⊢
  exact ⟨hkeys'.1, fun hpair => ⟨hkeys'.2 hpair, hvalues _ hpair⟩⟩

/-- Entries that are put in another order and whose values are reordered are the same entries. -/
lemma sameEntries_of_moved (hmoved : entries.Perm moved)
    (hkeys : moved.map Prod.fst = entries'.map Prod.fst)
    (hvalues : ∀ pair ∈ moved.zip entries', pair.1.2.Reordered pair.2.2) :
    SameEntries entries entries' := by
  have hsame := forall₂_of_values hkeys hvalues
  refine ⟨?_, fun key node hentry => ?_, fun key node' hentry => ?_⟩
  · have hnames : ∀ entries : List (Node × Node),
        names entries = (entries.map Prod.fst).filterMap Node.name? := by
      intro entries
      rw [List.filterMap_map]
      rfl
    rw [hnames, hnames, ← hkeys]
    exact (hmoved.map Prod.fst).filterMap Node.name?
  · obtain ⟨⟨_, node'⟩, hentry', rfl, hvalue⟩ :=
      exists_of_mem_forall₂ hsame (hmoved.mem_iff.1 hentry)
    exact ⟨node', hentry', hvalue⟩
  · obtain ⟨⟨_, node⟩, hentry', rfl, hvalue⟩ := exists_of_mem_forall₂ hsame.flip hentry
    exact ⟨node, hmoved.mem_iff.2 hentry', hvalue⟩

lemma SameEntries.forall_iff {P : Node → Node → Prop} (h : SameEntries entries entries')
    (hP : ∀ key node, (key, node) ∈ entries → ∀ node', node.Reordered node' →
      (P key node ↔ P key node')) :
    (∀ entry ∈ entries, P entry.1 entry.2) ↔ ∀ entry ∈ entries', P entry.1 entry.2 := by
  constructor
  · rintro hall ⟨key, node'⟩ hentry'
    obtain ⟨node, hentry, hvalue⟩ := h.back key node' hentry'
    exact (hP key node hentry node' hvalue).1 (hall _ hentry)
  · rintro hall ⟨key, node⟩ hentry
    obtain ⟨node', hentry', hvalue⟩ := h.forth key node hentry
    exact (hP key node hentry node' hvalue).2 (hall _ hentry')

lemma SameEntries.exists_under_iff {P : Node → Prop} (h : SameEntries entries entries')
    (hP : ∀ node, Under entries name node → ∀ node', node.Reordered node' → (P node ↔ P node')) :
    (∃ node, Under entries name node ∧ P node) ↔ ∃ node', Under entries' name node' ∧ P node' := by
  constructor
  · rintro ⟨node, ⟨key, hentry, hkey⟩, hnode⟩
    obtain ⟨node', hentry', hvalue⟩ := h.forth key node hentry
    exact ⟨node', ⟨key, hentry', hkey⟩, (hP node ⟨key, hentry, hkey⟩ node' hvalue).1 hnode⟩
  · rintro ⟨node', ⟨key, hentry', hkey⟩, hnode'⟩
    obtain ⟨node, hentry, hvalue⟩ := h.back key node' hentry'
    exact ⟨node, ⟨key, hentry, hkey⟩, (hP node ⟨key, hentry, hkey⟩ node' hvalue).2 hnode'⟩

lemma Node.Reordered.of_perm (h : entries.Perm entries') (tag : Option Bytes) :
    (Node.mapping entries tag).Reordered (.mapping entries' tag) := by
  refine .mapping tag h rfl fun pair hpair => ?_
  have hsame : pair.1 = pair.2 := List.forall₂_zip (List.forall₂_refl entries') hpair
  rw [hsame]
  exact .refl _

/-- Putting entries in another order brings in no alias. -/
lemma Node.Reordered.aliasFree (h : node.Reordered node') (hfree : node.AliasFree) :
    node'.AliasFree := by
  induction h with
  | refl => exact hfree
  | @sequence items items' tag hlength _ ih =>
    rw [aliasFree_sequence_iff] at hfree ⊢
    have hfrees : List.Forall₂ (fun item item' => item.AliasFree → item'.AliasFree) items items' :=
      List.forall₂_iff_zip.2 ⟨hlength, fun hpair => ih _ hpair⟩
    intro item' hitem'
    obtain ⟨item, hitem, hfree'⟩ := exists_of_mem_forall₂ hfrees.flip hitem'
    exact hfree' (hfree item hitem)
  | @mapping entries moved entries' tag hmoved hkeys _ ih =>
    rw [aliasFree_mapping_iff] at hfree ⊢
    have hfrees :=
      forall₂_of_values (R := fun node node' => node.AliasFree → node'.AliasFree) hkeys ih
    intro entry' hentry'
    obtain ⟨entry, hentry, hkey, hfree'⟩ := exists_of_mem_forall₂ hfrees.flip hentry'
    obtain ⟨hfreeKey, hfreeValue⟩ := hfree entry (hmoved.mem_iff.2 hentry)
    exact ⟨hkey ▸ hfreeKey, hfree' hfreeValue⟩

lemma Under.aliasFree (h : Under entries name node)
    (hfree : ∀ entry ∈ entries, entry.1.AliasFree ∧ entry.2.AliasFree) : node.AliasFree := by
  obtain ⟨key, hentry, -⟩ := h
  exact (hfree _ hentry).2

lemma SameEntries.aliasFree (h : SameEntries entries entries')
    (hfree : ∀ entry ∈ entries, entry.1.AliasFree ∧ entry.2.AliasFree) :
    ∀ entry ∈ entries', entry.1.AliasFree ∧ entry.2.AliasFree := by
  rintro ⟨key, node'⟩ hentry'
  obtain ⟨node, hentry, hvalue⟩ := h.back key node' hentry'
  obtain ⟨hkey, hnode⟩ := hfree _ hentry
  exact ⟨hkey, hvalue.aliasFree hnode⟩

end Reordered

end SizeSweep.Yaml
