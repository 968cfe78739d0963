import SizeSweep.Store
import SizeSweep.Proofs.Binary64.Numerals
import SizeSweep.Proofs.Csv.Lines
import SizeSweep.Proofs.Table.Values
import SizeSweep.Proofs.Text.Trimming

/-!
Results files read back.  The fields of a row are numbers, which the reader takes as they stand; a
column name it takes as it stands if the name is *legible*.  A file written under legible columns
is read as the table of exactly its columns and rows, and its store can be opened again.
-/

namespace SizeSweep

/-! ### Columns -/

/-- A column name without the marks of the file format and without white space at its ends. -/
structure Plain (column : String) : Prop where
  marks : ∀ c ∈ column.toList, c ≠ ',' ∧ c ≠ '"' ∧ c ≠ '\r' ∧ c ≠ '\n'
  first : ∀ c ∈ column.toList.head?, Text.isBlank c = false
  last : ∀ c ∈ column.toList.getLast?, Text.isBlank c = false

/-- A column name that is read back as it is written: it may hold quotes, but not in front. -/
structure Legible (column : String) : Prop where
  inside : ∀ c ∈ column.toList, c ≠ ',' ∧ c ≠ '\r' ∧ c ≠ '\n'
  first : column.toList.head? ≠ some '"'
  ends : Text.trimmed column = column

section Columns

variable {column : String}

instance : Decidable (Plain column) :=
  decidable_of_iff
    ((column.toList.all fun c => c ≠ ',' && c ≠ '"' && c ≠ '\r' && c ≠ '\n') = true ∧
      (column.toList.head?.all fun c => !Text.isBlank c) = true ∧
      (column.toList.getLast?.all fun c => !Text.isBlank c) = true)
    ⟨fun ⟨hmarks, hfirst, hlast⟩ =>
      ⟨by simpa [and_assoc] using hmarks, by simpa [Option.all_eq_true] using hfirst,
        by simpa [Option.all_eq_true] using hlast⟩,
    fun h => ⟨by simpa [and_assoc] using h.marks, by simpa [Option.all_eq_true] using h.first,
      by simpa [Option.all_eq_true] using h.last⟩⟩

lemma Plain.legible (h : Plain column) : Legible column where
  inside c hc := ⟨(h.marks c hc).1, (h.marks c hc).2.2⟩
  first hq := (h.marks '"' (List.mem_of_mem_head? hq)).2.1 rfl
  ends := Text.trimmed_eq_self h.first h.last

lemma bare_encode (hinside : ∀ c ∈ column.toList, c ≠ ',' ∧ c ≠ '\r' ∧ c ≠ '\n')
    (hfirst : column.toList.head? ≠ some '"') : Csv.Bare (Text.encode column) where
  inside b hb := by
    have hne : ∀ d : Char, d = ',' ∨ d = '\r' ∨ d = '\n' → b ≠ UInt8.ofNat d.toNat := by
      rintro d hd rfl
      have hlt : (UInt8.ofNat d.toNat).toNat = d.toNat ∧ d.toNat < 128 := by
        rcases hd with rfl | rfl | rfl <;> decide
      obtain ⟨c, hc, heq⟩ := (Text.mem_encode (by omega)).1 hb
      obtain rfl := Char.toNat_inj.1 (heq.trans hlt.1)
      obtain ⟨h₁, h₂, h₃⟩ := hinside c hc
      tauto
    refine ⟨hne ',' (by simp), ?_⟩
    have hlf : b ≠ 0x0A := hne '\n' (by simp)
    have hcr : b ≠ 0x0D := hne '\r' (by simp)
    simp [Csv.isLineEnd, hlf, hcr]
  first hq := by
    rcases hcs : column.toList with _ | ⟨c, cs⟩
    · simp [Text.encode, hcs] at hq
    · have hmem : Csv.quote ∈ String.utf8EncodeChar c := by
        rcases hbs : String.utf8EncodeChar c with _ | ⟨b, bs⟩
        · exact absurd hbs String.utf8EncodeChar_ne_nil
        · have : b = Csv.quote := by simpa [Text.encode, hcs, hbs] using hq
          simp [this]
      obtain rfl : c = '"' := Char.toNat_inj.1 ((Text.mem_utf8EncodeChar (by decide)).1 hmem)
      exact hfirst (by rw [hcs]; rfl)

lemma Legible.bare (h : Legible column) : Csv.Bare (Text.encode column) :=
  bare_encode h.inside h.first

end Columns

/-! ### Numbers as fields -/

section Numbers

variable {s : String}

lemma isBlank_of_isNumberChar {c : Char} (h : Binary64.isNumberChar c = true) :
    Text.isBlank c = false := by
  obtain ⟨hlow, hhigh⟩ := Binary64.toNat_of_isNumberChar h
  simp [Text.isBlank, Text.blankRanges]
  omega

/-- The bytes of a number come after those of the comma, the quote and the blanks. -/
lemma toNat_of_mem_encode {b : UInt8} (h : ∀ c ∈ s.toList, Binary64.isNumberChar c = true)
    (hb : b ∈ Text.encode s) : 45 ≤ b.toNat := by
  unfold Text.encode at hb
  rw [Text.flatMap_utf8EncodeChar fun c hc => (Binary64.toNat_of_isNumberChar (h c hc)).2] at hb
  obtain ⟨c, hc, rfl⟩ := List.mem_map.1 hb
  have := Binary64.toNat_of_isNumberChar (h c hc)
  rw [UInt8.toNat_ofNat']
  omega

lemma bare_number (h : ∀ c ∈ s.toList, Binary64.isNumberChar c = true) :
    Csv.Bare (Text.encode s) where
  inside b hb := by
    have hge := toNat_of_mem_encode h hb
    constructor
    · rintro rfl
      revert hge
      decide
    · simp only [Csv.isLineEnd, Bool.or_eq_false_iff, decide_eq_false_iff_not]
      constructor <;> rintro rfl <;> revert hge <;> decide
  first hq := by
    have hge := toNat_of_mem_encode h (List.mem_of_mem_head? hq)
    revert hge
    decide

lemma trimBytes_number (h : ∀ c ∈ s.toList, Binary64.isNumberChar c = true) :
    Text.trimBytes (Text.encode s) = Text.encode s := by
  refine Text.trimBytes_eq_self fun b hb => ?_
  have hge := toNat_of_mem_encode h hb
  simp only [Text.isBlankByte, Bool.or_eq_false_iff, decide_eq_false_iff_not, and_assoc]
  refine ⟨?_, ?_, ?_, ?_, ?_⟩ <;> rintro rfl <;> revert hge <;> decide

lemma trimmed_number (h : ∀ c ∈ s.toList, Binary64.isNumberChar c = true) :
    Text.trimmed s = s :=
  Text.trimmed_eq_self (fun c hc => isBlank_of_isNumberChar (h c (List.mem_of_mem_head? hc)))
    (fun c hc => isBlank_of_isNumberChar (h c (List.mem_of_mem_getLast? hc)))

end Numbers

/-! ### Lines -/

/-- A row as it is read back: with the canonical not-a-number in place of every other one. -/
def Row.canonical (row : Row) : Row := { row with values := row.values.map Binary64.canonical }

@[simp] lemma Row.size_canonical (row : Row) : row.canonical.size = row.size := rfl

/-- The fields of the line that records a row. -/
def Row.fields (row : Row) : List String := toString row.size :: row.values.map Binary64.text

@[simp] lemma Row.canonical_canonical (row : Row) : row.canonical.canonical = row.canonical := by
  simp [Row.canonical, Function.comp_def]

@[simp] lemma Row.fields_canonical (row : Row) : row.canonical.fields = row.fields := by
  simp [Row.canonical, Row.fields, Binary64.text, Function.comp_def]

/-- A line that says a row: texts of number characters with commas between them and a line feed at
the end, the first of which is read as the size of the row and the others as its values. -/
def Store.IsLineOf (row : Row) (bytes : Bytes) : Prop :=
  ∃ first others, bytes = Csv.lineOf ((first :: others).map Text.encode) ∧
    (∀ s ∈ first :: others, ∀ c ∈ s.toList, Binary64.isNumberChar c = true) ∧
    size? first = some row.size ∧
    others.map Binary64.ofText? = row.values.map fun x => some x.canonical

section Lines

variable {row : Row} {columns : List String}

lemma isNumberChar_fields {s : String} (hs : s ∈ row.fields) :
    ∀ c ∈ s.toList, Binary64.isNumberChar c = true := by
  rcases List.mem_cons.1 hs with rfl | hs
  · exact fun c hc => Binary64.isNumberChar_of_isDigit (isDigit_toString_size hc)
  · obtain ⟨x, -, rfl⟩ := List.mem_map.1 hs
    exact fun c hc => Binary64.isNumberChar_render hc

lemma rowLine_eq (row : Row) :
    Store.rowLine row = Csv.lineOf (row.fields.map Text.encode) := Csv.line_eq row.fields

lemma isLineOf_rowLine (row : Row) : Store.IsLineOf row (Store.rowLine row) := by
  refine ⟨toString row.size, row.values.map Binary64.text, rowLine_eq row,
    fun _ => isNumberChar_fields, size?_toString row.size, ?_⟩
  rw [List.map_map]
  exact List.map_congr_left fun x _ => Binary64.ofText?_render _ x

lemma regular_row (row : Row) : Csv.Regular (row.fields.map Text.encode) where
  bare field hfield := by
    obtain ⟨s, hs, rfl⟩ := List.mem_map.1 hfield
    exact bare_number (isNumberChar_fields hs)
  first := by
    have hne : Text.encode (toString row.size) ≠ [] := by
      unfold Text.encode
      rw [toList_toString_size]
      rcases hds : Nat.toDigits 10 row.size.toNat with _ | ⟨d, ds⟩
      · exact absurd hds Nat.toDigits_ne_nil
      · simp [String.utf8EncodeChar_ne_nil]
    obtain ⟨b, field, hb⟩ := List.exists_cons_of_ne_nil hne
    exact ⟨b, field, by simp [Row.fields, hb]⟩

lemma regular_header (h : ∀ column ∈ columns, Legible column) :
    Csv.Regular ((Metric.sizeColumn :: columns).map Text.encode) where
  bare field hfield := by
    obtain ⟨s, hs, rfl⟩ := List.mem_map.1 hfield
    rcases List.mem_cons.1 hs with rfl | hs
    · exact (by decide : Plain Metric.sizeColumn).legible.bare
    · exact (h s hs).bare
  first := ⟨0x73, [0x69, 0x7A, 0x65], rfl⟩

/-! ### Reading a line -/

lemma texts_encode {fields : List String} (index : ℕ)
    (h : ∀ s ∈ fields, Text.trimmed s = s) :
    Table.texts index (fields.map Text.encode) = .ok fields := by
  induction fields generalizing index with
  | nil => rfl
  | cons s fields ih =>
    obtain ⟨hs, hrest⟩ := List.forall_mem_cons.1 h
    rw [List.map_cons, Table.texts, Text.decode_encode]
    simp only [ih (index + 1) hrest, hs]
    rfl

lemma values_text {xs : List Binary64} (line : ℕ) (h : xs.length = columns.length) :
    Table.values line columns (xs.map Binary64.text) = .ok (xs.map Binary64.canonical) := by
  induction xs generalizing columns with
  | nil =>
    obtain rfl : columns = [] := List.length_eq_zero_iff.1 h.symm
    rfl
  | cons x xs ih =>
    rcases columns with _ | ⟨column, columns⟩
    · cases h
    · have hx : Binary64.ofText? x.text = some x.canonical := Binary64.ofText?_render _ x
      rw [List.map_cons, Table.values, hx]
      simp only [ih (Nat.succ.inj h)]
      rfl

/-- The record of a row's line is read as the row. -/
lemma row_fields {record : Csv.Record} (index : ℕ)
    (hrecord : record.fields = row.fields.map Text.encode)
    (hwidth : row.values.length = columns.length) :
    Table.row columns index record = .ok row.canonical := by
  have htrim : record.fields.map Text.trimBytes = row.fields.map Text.encode := by
    rw [hrecord, List.map_map]
    exact List.map_congr_left fun s hs => trimBytes_number (isNumberChar_fields hs)
  have htexts : Table.texts 0 (row.fields.map Text.encode) = .ok row.fields :=
    texts_encode 0 fun s hs => trimmed_number (isNumberChar_fields hs)
  have hlength : record.fields.length = columns.length + 1 := by
    simp [hrecord, Row.fields, hwidth]
  unfold Table.row
  simp only [hlength, htrim, htexts, ne_eq, not_true_eq_false, if_false]
  simp only [Row.fields, size?_toString, values_text _ hwidth]
  rfl

lemma rowsFrom_fields {rows : List Row} {records : List Csv.Record} (index : ℕ)
    (hrecords : records.map Csv.Record.fields = rows.map fun row => row.fields.map Text.encode)
    (hwidth : ∀ row ∈ rows, row.values.length = columns.length) :
    Table.rowsFrom columns index records = .ok (rows.map Row.canonical) := by
  induction rows generalizing records index with
  | nil =>
    obtain rfl : records = [] := by simpa using hrecords
    rfl
  | cons row rows ih =>
    rcases records with _ | ⟨record, records⟩
    · cases hrecords
    · obtain ⟨hrecord, hrest⟩ := List.cons.inj hrecords
      obtain ⟨hrow, hrows⟩ := List.forall_mem_cons.1 hwidth
      rw [Table.rowsFrom, row_fields index hrecord hrow]
      simp only [ih (index + 1) hrest hrows]
      rfl

end Lines

/-! ### Files -/

namespace Store

def contents (columns : List String) (rows : List Row) : Bytes :=
  Csv.line (Metric.sizeColumn :: columns) ++ rows.flatMap rowLine

def appendAll (store : Store) (bytes : Bytes) (rows : List Row) : Except Fault Bytes :=
  rows.foldlM (fun bytes row => store.append row (.content bytes)) bytes

/-- Starts a file afresh and appends rows to it. -/
def written (store : Store) (spot : Spot) (rows : List Row) : Except Fault Bytes := do
  store.appendAll (← store.fresh spot) rows

section Files

variable {path : String} {metrics : List Metric} {columns : List String} {rows : List Row}
  {spot : Spot} {bytes : Bytes}

lemma append_content {row : Row} (hwidth : row.values.length = metrics.length) :
    (forMetrics path metrics).append row (.content bytes) = .ok (bytes ++ rowLine row) := by
  simp [append, forMetrics, Metric.header, hwidth]

lemma appendAll_eq (hwidth : ∀ row ∈ rows, row.values.length = metrics.length) :
    (forMetrics path metrics).appendAll bytes rows = .ok (bytes ++ rows.flatMap rowLine) := by
  unfold appendAll
  induction rows generalizing bytes with
  | nil => simp [pure, Except.pure]
  | cons row rows ih =>
    obtain ⟨hrow, hrows⟩ := List.forall_mem_cons.1 hwidth
    rw [List.foldlM_cons, append_content hrow, List.flatMap_cons, ← List.append_assoc,
      ← ih hrows]
    rfl

lemma fresh_eq (hspot : ∀ fault, spot ≠ .blocked fault) :
    (forMetrics path metrics).fresh spot =
      .ok (Csv.line (Metric.sizeColumn :: metrics.map Metric.column)) := by
  cases spot with
  | missing => rfl
  | content bytes => rfl
  | blocked fault => exact absurd rfl (hspot fault)

lemma written_eq (hspot : ∀ fault, spot ≠ .blocked fault)
    (hwidth : ∀ row ∈ rows, row.values.length = metrics.length) :
    (forMetrics path metrics).written spot rows =
      .ok (contents (metrics.map Metric.column) rows) := by
  unfold written
  rw [fresh_eq hspot]
  exact appendAll_eq hwidth

/-- A header begins with the column of the sizes, and so not with a byte order mark. -/
lemma exists_line_header (columns : List String) :
    ∃ tail, Csv.line (Metric.sizeColumn :: columns) = 0x73 :: tail := by
  rw [Csv.line_eq]
  rcases columns with _ | ⟨column, columns⟩
  · exact ⟨_, rfl⟩
  · exact ⟨_, rfl⟩

lemma records_contents :
    Csv.records (contents columns rows) =
      Csv.recordsFrom .between {} ⟨0, 1⟩ ⟨0, 1⟩ (contents columns rows) := by
  obtain ⟨tail, htail⟩ := exists_line_header columns
  unfold contents
  rw [htail, List.cons_append, Csv.records_of_head (by decide)]

lemma contents_eq_text (columns : List String) (rows : List Row) :
    contents columns rows =
      Csv.text ((Metric.sizeColumn :: columns).map Text.encode ::
        rows.map fun row => row.fields.map Text.encode) := by
  unfold contents Csv.text
  rw [List.flatMap_cons, Csv.line_eq, List.flatMap_map]
  congr 2
  funext row
  exact rowLine_eq row

lemma fields_contents (h : ∀ column ∈ columns, Legible column) (rows : List Row) :
    (Csv.records (contents columns rows)).map Csv.Record.fields =
      (Metric.sizeColumn :: columns).map Text.encode ::
        rows.map fun row => row.fields.map Text.encode := by
  rw [records_contents, contents_eq_text]
  refine Csv.recordsFrom_text fun fields hfields => ?_
  rcases List.mem_cons.1 hfields with rfl | hfields
  · exact regular_header h
  · obtain ⟨row, -, rfl⟩ := List.mem_map.1 hfields
    exact regular_row row

/-- **A file under legible columns is the table of its columns and rows.** -/
theorem ofBytes_contents (h : ∀ column ∈ columns, Legible column)
    (hwidth : ∀ row ∈ rows, row.values.length = columns.length) :
    Table.ofBytes (contents columns rows) = .ok ⟨columns, rows.map Row.canonical⟩ := by
  have hfields := fields_contents h rows
  unfold Table.ofBytes
  rcases hall : Csv.records (contents columns rows) with _ | ⟨header, records⟩
  · rw [hall] at hfields
    cases hfields
  · rw [hall] at hfields
    obtain ⟨hheader, hrecords⟩ := List.cons.inj hfields
    have htrim : ∀ s ∈ Metric.sizeColumn :: columns, Text.trimmed s = s :=
      List.forall_mem_cons.2 ⟨by decide, fun s hs => (h s hs).ends⟩
    have htexts := texts_encode 0 htrim
    rw [← hheader] at htexts
    unfold Table.ofRecords
    simp only [htexts, if_true, rowsFrom_fields 1 hrecords hwidth]
    rfl

lemma contents_append (columns : List String) (rows more : List Row) :
    contents columns (rows ++ more) = contents columns rows ++ more.flatMap rowLine := by
  unfold contents
  rw [List.flatMap_append, List.append_assoc]

lemma sizes_canonical (rows : List Row) :
    (rows.map Row.canonical).map Row.size = rows.map Row.size := by
  rw [List.map_map]
  rfl

/-- **A file under legible columns can be opened again**: it stays as it is, and the sizes of its
rows are known. -/
theorem resume_contents (h : ∀ m ∈ metrics, Legible m.column)
    (hwidth : ∀ row ∈ rows, row.values.length = metrics.length) :
    (forMetrics path metrics).resume (.content (contents (metrics.map Metric.column) rows)) =
      .ok (contents (metrics.map Metric.column) rows, rows.map Row.size) := by
  have hread : Table.ofBytes (contents (metrics.map Metric.column) rows) = .ok ⟨_, _⟩ :=
    ofBytes_contents (by simpa using h) (by simpa using hwidth)
  have hlast : (contents (metrics.map Metric.column) rows).getLast? = some 0x0A := by
    rw [contents_eq_text]
    exact Csv.getLast?_text (by simp)
  rcases hbytes : contents (metrics.map Metric.column) rows with _ | ⟨b, bytes⟩
  · rw [hbytes] at hlast
    cases hlast
  · rw [hbytes] at hread hlast
    unfold resume
    simp only [hread, forMetrics, Metric.header, if_true, terminated, hlast, Table.sizes,
      sizes_canonical]

/-! ### Values -/

/-- The last row of a size gives its values. -/
lemma value?_of_last {before after : List Row} {row : Row} {i : ℕ}
    (hafter : ∀ later ∈ after, later.size ≠ row.size) (hi : i < metrics.length)
    (hwidth : row.values.length = metrics.length)
    (hdistinct : ∀ j (hj : j < metrics.length), metrics[j].column = metrics[i].column → j = i) :
    ∃ x, row.values[i]? = some x ∧
      Table.value? ⟨metrics.map Metric.column, (before ++ row :: after).map Row.canonical⟩
        row.size metrics[i].column = some x.canonical := by
  obtain ⟨x, hx⟩ : ∃ x, row.values[i]? = some x :=
    ⟨_, List.getElem?_eq_getElem (by omega)⟩
  refine ⟨x, hx, Table.value?_eq_some_iff.2 ⟨before.map Row.canonical, row.canonical,
    after.map Row.canonical, i, ?_, rfl, by simpa using hafter, by simp [hi], fun hmem => ?_, ?_⟩⟩
  · rw [List.map_append, List.map_cons]
  · obtain ⟨j, hj, hname⟩ := List.mem_take_iff_getElem.1 hmem
    rw [List.length_map] at hj
    have hsame := hdistinct j (by omega) (by simpa using hname)
    omega
  · simp only [Row.canonical, List.getElem?_map, hx, Option.map_some]

/-- **Reading undoes writing.** What is written under plain columns is read as the table of these
columns and of the appended rows, in their order and with every value as it was, a not-a-number
as the canonical one; and at every recorded size a column of its own has the value of the last
row appended for the size. -/
theorem ofBytes_written (path : String) (metrics : List Metric) (spot : Spot) (rows : List Row)
    (hplain : ∀ m ∈ metrics, Plain m.column) (hspot : ∀ fault, spot ≠ .blocked fault)
    (hwidth : ∀ row ∈ rows, row.values.length = metrics.length) :
    ∃ bytes table, (forMetrics path metrics).written spot rows = .ok bytes ∧
      Table.ofBytes bytes = .ok table ∧
      table.columns = metrics.map Metric.column ∧ table.rows = rows.map Row.canonical ∧
      ∀ size ∈ rows.map Row.size, ∃ before row after,
        rows = before ++ row :: after ∧ row.size = size ∧
        (∀ later ∈ after, later.size ≠ size) ∧
        ∀ i (hi : i < metrics.length),
          (∀ j (hj : j < metrics.length), metrics[j].column = metrics[i].column → j = i) →
          ∃ x, row.values[i]? = some x ∧
            table.value? size metrics[i].column = some x.canonical := by
  have hread : Table.ofBytes (contents (metrics.map Metric.column) rows) = .ok ⟨_, _⟩ :=
    ofBytes_contents (by simpa using fun m hm => (hplain m hm).legible) (by simpa using hwidth)
  refine ⟨_, _, written_eq hspot hwidth, hread, rfl, rfl, fun size hsize => ?_⟩
  obtain ⟨before, row, after, rfl, rfl, hafter⟩ := Table.exists_last_row hsize
  refine ⟨before, row, after, rfl, rfl, hafter, fun i hi hdistinct => ?_⟩
  exact value?_of_last hafter hi (hwidth row (by simp)) hdistinct

/-- Two rows of one size, a negative zero and a not-a-number. -/
theorem ofBytes_written_two_rows :
    ∃ bytes table, (forMetrics "sweep.csv" [⟨"ns", "mean"⟩]).written .missing
        [⟨8, [Binary64.zero true]⟩, ⟨8, [Binary64.nan]⟩] = .ok bytes ∧
      Table.ofBytes bytes = .ok table ∧ table.columns = ["ns"] ∧
      table.rows = [⟨8, [Binary64.zero true]⟩, ⟨8, [Binary64.nan]⟩] := by
  have hplain : ∀ m ∈ [(⟨"ns", "mean"⟩ : Metric)], Plain m.column := by
    intro m hm
    obtain rfl := List.mem_singleton.1 hm
    decide
  obtain ⟨bytes, table, hwritten, hread, hcolumns, hrows, -⟩ :=
    ofBytes_written "sweep.csv" [⟨"ns", "mean"⟩] .missing
      [⟨8, [Binary64.zero true]⟩, ⟨8, [Binary64.nan]⟩] hplain (by simp) (by simp)
  exact ⟨bytes, table, hwritten, hread, hcolumns, hrows⟩

end Files

end Store

end SizeSweep
