import Mathlib.Data.List.Forall2
import SizeSweep.Proofs.Csv.Continuation
import SizeSweep.Proofs.Text.Trimming
import SizeSweep.Table

/-!
What a successful reading says.  Whether records form a table, and which one, depends on their
fields alone and not on where they stand: the first record is the header, and each of the others
spells a row.  So a table grows by the rows that further records spell.
-/

namespace SizeSweep

/-- A field that is read as a column name. -/
def ReadAs (field : Bytes) (column : String) : Prop :=
  ∃ text, Text.decode field = .ok text ∧ Text.trimmed text = column

namespace Table

lemma forall₂_append_left {α β : Type} {R : α → β → Prop} {as bs : List α} {l : List β}
    (h : List.Forall₂ R (as ++ bs) l) :
    ∃ l₁ l₂, l = l₁ ++ l₂ ∧ List.Forall₂ R as l₁ ∧ List.Forall₂ R bs l₂ := by
  have hflip : List.Forall₂ (flip R) l (as ++ bs) := h.flip
  refine ⟨l.take as.length, l.drop as.length, (List.take_append_drop ..).symm, ?_, ?_⟩
  · exact (List.forall₂_take_append l as bs hflip).flip
  · exact (List.forall₂_drop_append l as bs hflip).flip

/-- The fields of a record that is read as a row under some columns. -/
structure Spells (columns : List String) (fields : List Bytes) (row : Row) : Prop where
  width : fields.length = columns.length + 1
  texts : ∃ first raws, Table.texts 0 (fields.map Text.trimBytes) = .ok (first :: raws) ∧
    size? first = some row.size ∧ raws.map Binary64.ofText? = row.values.map some

/-- The fields of records that form a table. -/
def Forms (table : Table) (records : List (List Bytes)) : Prop :=
  ∃ header more, records = header :: more ∧
    Table.texts 0 header = .ok (Metric.sizeColumn :: table.columns) ∧
    List.Forall₂ (Spells table.columns) more table.rows

section Reading

variable {columns : List String} {fields : List Bytes} {record : Csv.Record} {row row' : Row}
  {rows : List Row} {index : ℕ}

lemma texts_eq_ok_iff {texts : List String} :
    Table.texts index fields = .ok texts ↔ List.Forall₂ ReadAs fields texts := by
  induction fields generalizing index texts with
  | nil => simp [Table.texts, eq_comm]
  | cons field fields ih =>
    rw [Table.texts, List.forall₂_cons_left_iff]
    constructor
    · intro h
      rcases htext : Text.decode field with good | text
      · simp [htext] at h
      · rcases hrest : Table.texts (index + 1) fields with fault | rest
        · simp [htext, hrest, Except.map] at h
        · obtain rfl : Text.trimmed text :: rest = texts := by
            simpa [htext, hrest, Except.map] using h
          exact ⟨_, rest, ⟨text, htext, rfl⟩, ih.1 hrest, rfl⟩
    · rintro ⟨column, rest, ⟨text, htext, rfl⟩, hrest, rfl⟩
      simp only [htext, ih.2 hrest]
      rfl

lemma length_texts {texts : List String} (h : Table.texts index fields = .ok texts) :
    texts.length = fields.length :=
  (texts_eq_ok_iff.1 h).length_eq.symm

lemma values_eq_ok_iff {raws : List String} {xs : List Binary64} (line : ℕ)
    (h : raws.length = columns.length) :
    values line columns raws = .ok xs ↔ raws.map Binary64.ofText? = xs.map some := by
  induction raws generalizing columns xs with
  | nil =>
    constructor
    · intro hvalues
      obtain rfl : [] = xs := by simpa [values] using hvalues
      rfl
    · intro hmap
      obtain rfl : xs = [] := List.map_eq_nil_iff.1 hmap.symm
      simp [values]
  | cons raw raws ih =>
    obtain ⟨column, columns, rfl⟩ := List.exists_cons_of_length_eq_add_one h.symm
    have hlength : raws.length = columns.length := Nat.succ.inj h
    constructor
    · intro hvalues
      rw [values] at hvalues
      rcases hraw : Binary64.ofText? raw with _ | x
      · simp [hraw] at hvalues
      · rcases hrest : values line columns raws with fault | rest
        · simp [hraw, hrest, Except.map] at hvalues
        · obtain rfl : x :: rest = xs := by simpa [hraw, hrest, Except.map] using hvalues
          rw [List.map_cons, List.map_cons, hraw, (ih hlength).1 hrest]
    · intro hmap
      rcases xs with _ | ⟨x, xs⟩
      · cases hmap
      · obtain ⟨hraw, hrest⟩ := List.cons.inj hmap
        rw [values, hraw]
        simp only [(ih hlength).2 hrest]
        rfl

lemma row_eq_ok_iff :
    Table.row columns index record = .ok row ↔ Spells columns record.fields row := by
  constructor
  · intro h
    unfold Table.row at h
    simp only at h
    split_ifs at h with hwidth
    rcases htexts : Table.texts 0 (record.fields.map Text.trimBytes) with fault | texts
    · simp [htexts] at h
    · have hlength := length_texts htexts
      rw [List.length_map, not_not.1 hwidth] at hlength
      obtain ⟨first, raws, rfl⟩ := List.exists_cons_of_length_eq_add_one hlength
      simp only [htexts] at h
      rcases hsize : size? first with _ | size
      · simp [hsize] at h
      · rcases hvalues : values record.start.line columns raws with fault | xs
        · simp [hsize, hvalues, Except.map] at h
        · obtain rfl : (⟨size, xs⟩ : Row) = row := by
            simpa [hsize, hvalues, Except.map] using h
          exact ⟨not_not.1 hwidth, first, raws, htexts, hsize,
            (values_eq_ok_iff _ (Nat.succ.inj hlength)).1 hvalues⟩
  · rintro ⟨hwidth, first, raws, htexts, hsize, hmap⟩
    have hlength := length_texts htexts
    rw [List.length_map, hwidth] at hlength
    have hvalues := (values_eq_ok_iff record.start.line (Nat.succ.inj hlength)).2 hmap
    unfold Table.row
    simp only [hwidth, htexts, hsize, hvalues, ne_eq, not_true_eq_false, if_false]
    rfl

lemma rowsFrom_eq_ok_iff {records : List Csv.Record} :
    rowsFrom columns index records = .ok rows ↔
      List.Forall₂ (Spells columns) (records.map Csv.Record.fields) rows := by
  induction records generalizing index rows with
  | nil => simp [rowsFrom, eq_comm]
  | cons record records ih =>
    rw [rowsFrom, List.map_cons, List.forall₂_cons_left_iff]
    constructor
    · intro h
      rcases hrow : Table.row columns index record with fault | row
      · simp [hrow] at h
      · rcases hrest : rowsFrom columns (index + 1) records with fault | rest
        · simp [hrow, hrest, Except.map] at h
        · obtain rfl : row :: rest = rows := by simpa [hrow, hrest, Except.map] using h
          exact ⟨row, rest, row_eq_ok_iff.1 hrow, ih.1 hrest, rfl⟩
    · rintro ⟨row, rest, hrow, hrest, rfl⟩
      rw [row_eq_ok_iff.2 hrow]
      simp only [ih.2 hrest]
      rfl

/-- **Records form a table** exactly if their fields do. -/
theorem ofRecords_eq_ok_iff {records : List Csv.Record} {table : Table} :
    ofRecords records = .ok table ↔ table.Forms (records.map Csv.Record.fields) := by
  constructor
  · intro h
    unfold ofRecords at h
    rcases records with _ | ⟨header, records⟩
    · cases h
    · simp only at h
      split at h
      · cases h
      · cases h
      · rename_i first columns htexts
        split_ifs at h with hfirst
        subst hfirst
        rcases hrows : rowsFrom columns 1 records with fault | rows
        · simp [hrows, Except.map] at h
        · obtain rfl : (⟨columns, rows⟩ : Table) = table := by
            simpa [hrows, Except.map] using h
          exact ⟨_, _, rfl, htexts, rowsFrom_eq_ok_iff.1 hrows⟩
  · rintro ⟨header, more, hfields, hheader, hrows⟩
    rcases records with _ | ⟨record, records⟩
    · cases hfields
    · obtain ⟨rfl, rfl⟩ := List.cons.inj hfields
      unfold ofRecords
      simp only [hheader, if_true, rowsFrom_eq_ok_iff.2 hrows]
      rfl

lemma ofBytes_eq_ok_iff {bs : Bytes} {table : Table} :
    ofBytes bs = .ok table ↔ table.Forms (Csv.fieldsOf bs) := ofRecords_eq_ok_iff

lemma Spells.unique (h : Spells columns fields row) (h' : Spells columns fields row') :
    row = row' := by
  obtain ⟨first, raws, htexts, hsize, hvalues⟩ := h.texts
  obtain ⟨first', raws', htexts', hsize', hvalues'⟩ := h'.texts
  obtain ⟨rfl, rfl⟩ := List.cons.inj (Except.ok.inj (htexts.symm.trans htexts'))
  obtain ⟨size, values⟩ := row
  obtain ⟨size', values'⟩ := row'
  obtain rfl : size = size' := Option.some.inj (hsize.symm.trans hsize')
  have hsame : values.map some = values'.map some := hvalues.symm.trans hvalues'
  obtain rfl := List.map_injective_iff.2 (fun _ _ => Option.some.inj) hsame
  rfl

end Reading

/-! ### Tables that grow -/

section Growing

variable {table : Table} {columns : List String} {records more : List (List Bytes)}
  {fields : List Bytes} {field : Bytes} {rows : List Row} {row : Row}

lemma Forms.length (h : table.Forms records) : records.length = table.rows.length + 1 := by
  obtain ⟨header, more, rfl, -, hrows⟩ := h
  rw [List.length_cons, hrows.length_eq]

/-- Records that spell rows add these rows. -/
lemma Forms.append (h : table.Forms records)
    (hmore : List.Forall₂ (Spells table.columns) more rows) :
    Forms ⟨table.columns, table.rows ++ rows⟩ (records ++ more) := by
  obtain ⟨header, done, rfl, hheader, hrows⟩ := h
  exact ⟨header, done ++ more, rfl, hheader, List.rel_append hrows hmore⟩

lemma texts_lineFeed {texts : List String} {index : ℕ}
    (h : Table.texts index (fields ++ [field]) = .ok texts) :
    Table.texts index (fields ++ [field ++ [0x0A]]) = .ok texts := by
  induction fields generalizing index texts with
  | nil =>
    rw [List.nil_append, Table.texts] at h ⊢
    rcases htext : Text.decode field with good | text
    · simp [htext] at h
    -- the text of the field gains a line feed, which is trimmed off with the white space
    · have hlineFeed : Text.decode (field ++ [0x0A]) = .ok (text ++ String.ofList ['\n']) := by
        rw [← Text.encode_of_decode htext, ← Text.decode_encode, Text.encode_append]
        rfl
      rw [hlineFeed]
      simpa [htext, Text.trimmed_append_blank text (by decide : Text.isBlank '\n' = true)] using h
  | cons first fields ih =>
    rw [List.cons_append, Table.texts] at h ⊢
    rcases htext : Text.decode first with good | text
    · simp [htext] at h
    · rcases hrest : Table.texts (index + 1) (fields ++ [field]) with fault | rest
      · simp [htext, hrest, Except.map] at h
      · simpa [htext, hrest, ih hrest] using h

lemma Spells.lineFeed (h : Spells columns (fields ++ [field]) row) :
    Spells columns (fields ++ [field ++ [0x0A]]) row where
  width := by simpa using h.width
  texts := by
    have htrim : (fields ++ [field ++ [0x0A]]).map Text.trimBytes =
        (fields ++ [field]).map Text.trimBytes := by
      simp [Text.trimBytes_concat field (by decide : Text.isBlankByte 0x0A = true)]
    rw [htrim]
    exact h.texts

/-- A line feed at the end of the last field is trimmed. -/
lemma Forms.lineFeed (h : table.Forms (records ++ [fields ++ [field]])) :
    table.Forms (records ++ [fields ++ [field ++ [0x0A]]]) := by
  obtain ⟨header, more, hsplit, hheader, hrows⟩ := h
  rcases records with _ | ⟨first, records⟩
  · obtain ⟨rfl, rfl⟩ := List.cons.inj hsplit
    exact ⟨_, [], rfl, texts_lineFeed hheader, hrows⟩
  · obtain ⟨rfl, rfl⟩ := List.cons.inj hsplit
    obtain ⟨rows, more, hall, hrecords, hlast⟩ := forall₂_append_left hrows
    obtain ⟨row, rest, hrow, hrest, rfl⟩ := List.forall₂_cons_left_iff.1 hlast
    refine ⟨first, records ++ [fields ++ [field ++ [0x0A]]], rfl, hheader, ?_⟩
    rw [hall]
    exact List.rel_append hrecords (.cons hrow.lineFeed hrest)

end Growing

end Table

end SizeSweep
