import SizeSweep.Proofs.Csv.Positions
import SizeSweep.Proofs.Table

/-!
The first fault.  The reader accepts exactly the records that are a table: a header that begins with
`size`, and behind it rows, each with one field more than there are columns, the first of them a size
and the others numbers.  Of all other records it reports the fault of the header if that is wrong,
and else the fault of the earliest record that is no row: its length before the first field that is
no text, this before the size, and the size before the leftmost value.
-/

namespace SizeSweep

/-! ### The first failure in a list -/

/-- The first element of a list without a property, and the elements before it. -/
structure FirstWithout {α : Type} (p : α → Prop) (l passed : List α) (x : α) : Prop where
  prefixed : passed ++ [x] <+: l
  passes : ∀ y ∈ passed, p y
  fails : ¬p x

section FirstWithout

variable {α : Type} {p : α → Prop} {l passed : List α} {x y : α} {q : List α → α → Prop}

lemma not_firstWithout_nil : ¬FirstWithout p [] passed x := by
  intro h
  have hnil := List.prefix_nil.1 h.prefixed
  simp at hnil

/-- If the head fails, it is the first to fail. -/
lemma exists_firstWithout_of_fails (hy : ¬p y) :
    (∃ passed x, FirstWithout p (y :: l) passed x ∧ q passed x) ↔ q [] y := by
  constructor
  · rintro ⟨passed, x, h, hq⟩
    rcases passed with _ | ⟨z, rest⟩
    · obtain ⟨rfl, -⟩ := List.cons_prefix_cons.1 h.prefixed
      exact hq
    · obtain ⟨rfl, -⟩ := List.cons_prefix_cons.1 h.prefixed
      exact absurd (h.passes z (List.mem_cons_self ..)) hy
  · intro hq
    exact ⟨[], y, ⟨by simp, by simp, hy⟩, hq⟩

/-- If the head passes, the first to fail is that of the tail. -/
lemma exists_firstWithout_of_passes (hy : p y) :
    (∃ passed x, FirstWithout p (y :: l) passed x ∧ q passed x) ↔
      ∃ passed x, FirstWithout p l passed x ∧ q (y :: passed) x := by
  constructor
  · rintro ⟨passed, x, h, hq⟩
    rcases passed with _ | ⟨z, rest⟩
    · obtain ⟨rfl, -⟩ := List.cons_prefix_cons.1 h.prefixed
      exact absurd hy h.fails
    · obtain ⟨rfl, hrest⟩ := List.cons_prefix_cons.1 h.prefixed
      exact ⟨rest, x, ⟨hrest, (List.forall_mem_cons.1 h.passes).2, h.fails⟩, hq⟩
  · rintro ⟨passed, x, h, hq⟩
    refine ⟨y :: passed, x, ⟨?_, List.forall_mem_cons.2 ⟨hy, h.passes⟩, h.fails⟩, hq⟩
    rw [List.cons_append, List.cons_prefix_cons]
    exact ⟨rfl, h.prefixed⟩

end FirstWithout

namespace Table

/-! ### Tables -/

def IsText (field : Bytes) : Prop := ∃ text, Text.decode field = .ok text

def IsNumber (raw : String) : Prop := ∃ x, Binary64.ofText? raw = some x

/-- The fields of a record are a row: one more than there are columns, all of them texts, the first
a size and each of the others a number. -/
structure IsRow (columns : List String) (fields : List Bytes) (row : Row) : Prop where
  length : fields.length = columns.length + 1
  numbers : ∃ first raws, List.Forall₂ ReadAs (fields.map Text.trimBytes) (first :: raws) ∧
    size? first = some row.size ∧
    List.Forall₂ (fun raw x => Binary64.ofText? raw = some x) raws row.values

/-- The fields of records are a table: those of the first one name the sizes and the columns, and
those of each of the others are a row. -/
def IsTable (records : List (List Bytes)) (table : Table) : Prop :=
  ∃ header more, records = header :: more ∧
    List.Forall₂ ReadAs header (Metric.sizeColumn :: table.columns) ∧
    List.Forall₂ (IsRow table.columns) more table.rows

section Tables

variable {columns : List String} {fields : List Bytes} {row : Row} {table : Table}
  {records : List (List Bytes)}

lemma spells_iff_isRow : Spells columns fields row ↔ IsRow columns fields row := by
  have hvalues : ∀ raws : List String, raws.map Binary64.ofText? = row.values.map some ↔
      List.Forall₂ (fun raw x => Binary64.ofText? raw = some x) raws row.values := by
    intro raws
    rw [← List.forall₂_eq_eq_eq, List.forall₂_map_left_iff, List.forall₂_map_right_iff]
  constructor
  · rintro ⟨hlength, first, raws, htexts, hsize, hmap⟩
    exact ⟨hlength, first, raws, texts_eq_ok_iff.1 htexts, hsize, (hvalues raws).1 hmap⟩
  · rintro ⟨hlength, first, raws, htexts, hsize, hforall⟩
    exact ⟨hlength, first, raws, texts_eq_ok_iff.2 htexts, hsize, (hvalues raws).2 hforall⟩

lemma forms_iff_isTable : table.Forms records ↔ IsTable records table := by
  have hrow : Spells table.columns = IsRow table.columns := by
    funext fields row
    exact propext spells_iff_isRow
  unfold Forms IsTable
  simp only [texts_eq_ok_iff, hrow]

/-- A row has a value for each column. -/
lemma IsRow.length_values (h : IsRow columns fields row) :
    row.values.length = columns.length := by
  obtain ⟨first, raws, htexts, -, hvalues⟩ := h.numbers
  have hlength := htexts.length_eq
  rw [List.length_map, h.length, List.length_cons] at hlength
  have hsame := hvalues.length_eq
  omega

lemma IsTable.length_values (h : IsTable records table) :
    ∀ row ∈ table.rows, row.values.length = table.columns.length := by
  obtain ⟨header, more, -, -, hrows⟩ := h
  intro row hrow
  obtain ⟨i, hi, rfl⟩ := List.getElem_of_mem hrow
  exact (hrows.get (by rw [hrows.length_eq]; exact hi) hi).length_values

end Tables

/-! ### Faults -/

/-- The fault of a record that is no row.  Its length counts before a field that is no text, this
before the size, and the size before the leftmost value that is no number. -/
inductive Fails (columns : List String) (index : ℕ) (record : Csv.Record) : Fault → Prop
  | unequalLength (hlength : record.fields.length ≠ columns.length + 1) :
      Fails columns index record (.records
        (.unequalLength index record.start record.fields.length (columns.length + 1)))
  | invalidText {passed : List Bytes} {field : Bytes} {good : ℕ}
      (hlength : record.fields.length = columns.length + 1)
      (hfirst : FirstWithout IsText (record.fields.map Text.trimBytes) passed field)
      (hgood : Text.decode field = .error good) :
      Fails columns index record (.records (.invalidText index record.start passed.length good))
  | invalidSize {first : String} {raws : List String}
      (hlength : record.fields.length = columns.length + 1)
      (htexts : List.Forall₂ ReadAs (record.fields.map Text.trimBytes) (first :: raws))
      (hsize : size? first = none) :
      Fails columns index record (.invalidField record.start.line Metric.sizeColumn first)
  | invalidValue {first raw column : String} {raws passed : List String} {size : UInt64}
      (hlength : record.fields.length = columns.length + 1)
      (htexts : List.Forall₂ ReadAs (record.fields.map Text.trimBytes) (first :: raws))
      (hsize : size? first = some size) (hfirst : FirstWithout IsNumber raws passed raw)
      (hcolumn : columns[passed.length]? = some column) :
      Fails columns index record (.invalidField record.start.line column raw)

/-- The record in a place is the first behind a good header that is no row, and this is its fault. -/
def Offends (records : List Csv.Record) (index : ℕ) (fault : Fault) : Prop :=
  ∃ header more columns passed record, records = header :: more ∧
    List.Forall₂ ReadAs header.fields (Metric.sizeColumn :: columns) ∧
    FirstWithout (fun record => ∃ row, IsRow columns record.fields row) more passed record ∧
    index = passed.length + 1 ∧ Fails columns index record fault

/-- The fault of records that are no table: that of the header, whatever follows it, and else that
of the first record that is no row. -/
inductive FirstFault : List Csv.Record → Fault → Prop
  | empty : FirstFault [] .missingSizeColumn
  | headerText {header : Csv.Record} {more : List Csv.Record} {passed : List Bytes} {field : Bytes}
      {good : ℕ} (hfirst : FirstWithout IsText header.fields passed field)
      (hgood : Text.decode field = .error good) :
      FirstFault (header :: more) (.records (.invalidText 0 header.start passed.length good))
  | headerName {header : Csv.Record} {more : List Csv.Record} {names : List String}
      (htexts : List.Forall₂ ReadAs header.fields names)
      (hname : names.head? ≠ some Metric.sizeColumn) :
      FirstFault (header :: more) .missingSizeColumn
  | record {records : List Csv.Record} {index : ℕ} {fault : Fault}
      (h : Offends records index fault) : FirstFault records fault

section Faults

variable {columns raws : List String} {fields : List Bytes} {record : Csv.Record}
  {records : List Csv.Record} {index place good : ℕ} {fault : Fault}

lemma map_eq_error_iff {ε α β : Type} {result : Except ε α} {f : α → β} {e : ε} :
    result.map f = .error e ↔ result = .error e := by
  cases result <;> simp [Except.map]

lemma texts_eq_error_iff : Table.texts index fields = .error (place, good) ↔
    ∃ passed field, FirstWithout IsText fields passed field ∧ Text.decode field = .error good ∧
      place = index + passed.length := by
  induction fields generalizing index with
  | nil => simp [Table.texts, not_firstWithout_nil]
  | cons field fields ih =>
    rw [Table.texts]
    rcases htext : Text.decode field with good' | text
    · have hfails : ¬IsText field := by
        rintro ⟨text, h⟩
        rw [htext] at h
        cases h
      rw [exists_firstWithout_of_fails hfails]
      simp [htext, eq_comm, and_comm]
    · rw [exists_firstWithout_of_passes ⟨text, htext⟩]
      simp only [map_eq_error_iff, ih, List.length_cons, Nat.add_right_comm index,
        ← Nat.add_assoc]

lemma values_eq_error_iff (line : ℕ) (hlength : raws.length = columns.length) :
    values line columns raws = .error fault ↔
      ∃ passed raw, FirstWithout IsNumber raws passed raw ∧
        ∃ column, columns[passed.length]? = some column ∧ fault = .invalidField line column raw := by
  induction raws generalizing columns with
  | nil => simp [values, not_firstWithout_nil]
  | cons raw raws ih =>
    obtain ⟨column, columns, rfl⟩ := List.exists_cons_of_length_eq_add_one hlength.symm
    rw [values]
    rcases hraw : Binary64.ofText? raw with _ | x
    · have hfails : ¬IsNumber raw := by
        rintro ⟨x, h⟩
        rw [hraw] at h
        cases h
      rw [exists_firstWithout_of_fails hfails]
      simp [eq_comm]
    · rw [exists_firstWithout_of_passes ⟨x, hraw⟩]
      simp only [map_eq_error_iff, ih (Nat.succ.inj hlength), List.length_cons,
        List.getElem?_cons_succ]

lemma row_eq_error_iff :
    Table.row columns index record = .error fault ↔ Fails columns index record fault := by
  have hlength_texts : ∀ {texts : List String}, record.fields.length = columns.length + 1 →
      List.Forall₂ ReadAs (record.fields.map Text.trimBytes) texts →
      texts.length = columns.length + 1 := fun hlength htexts => by
    rw [← htexts.length_eq, List.length_map, hlength]
  constructor
  · intro h
    unfold Table.row at h
    simp only at h
    split_ifs at h with hwidth
    · obtain rfl := Except.error.inj h
      exact .unequalLength hwidth
    · have hlength := not_not.1 hwidth
      rcases htexts : Table.texts 0 (record.fields.map Text.trimBytes) with ⟨place, good⟩ | texts
      · simp only [htexts, Except.error.injEq] at h
        subst h
        obtain ⟨passed, field, hfirst, hgood, rfl⟩ := texts_eq_error_iff.1 htexts
        rw [Nat.zero_add]
        exact .invalidText hlength hfirst hgood
      · have hread := texts_eq_ok_iff.1 htexts
        have hcount := hlength_texts hlength hread
        obtain ⟨first, raws, rfl⟩ := List.exists_cons_of_length_eq_add_one hcount
        simp only [htexts] at h
        rcases hsize : size? first with _ | size
        · simp only [hsize, Except.error.injEq] at h
          subst h
          exact .invalidSize hlength hread hsize
        · simp only [hsize, map_eq_error_iff] at h
          obtain ⟨passed, raw, hfirst, column, hcolumn, rfl⟩ :=
            (values_eq_error_iff _ (Nat.succ.inj hcount)).1 h
          exact .invalidValue hlength hread hsize hfirst hcolumn
  · intro h
    unfold Table.row
    cases h with
    | unequalLength hlength => simp only [hlength, ne_eq, not_false_eq_true, if_true]
    | invalidText hlength hfirst hgood =>
      have htexts := texts_eq_error_iff.2 ⟨_, _, hfirst, hgood, (Nat.zero_add _).symm⟩
      simp only [hlength, htexts, ne_eq, not_true_eq_false, if_false]
    | invalidSize hlength htexts hsize =>
      simp only [hlength, texts_eq_ok_iff.2 htexts, hsize, ne_eq, not_true_eq_false, if_false]
    | invalidValue hlength htexts hsize hfirst hcolumn =>
      have hcount := Nat.succ.inj (hlength_texts hlength htexts)
      have hvalues := (values_eq_error_iff record.start.line hcount).2
        ⟨_, _, hfirst, _, hcolumn, rfl⟩
      simp only [hlength, texts_eq_ok_iff.2 htexts, hsize, hvalues, ne_eq, not_true_eq_false,
        if_false, map_eq_error_iff]

lemma row_eq_ok_iff_isRow {row : Row} :
    Table.row columns index record = .ok row ↔ IsRow columns record.fields row :=
  row_eq_ok_iff.trans spells_iff_isRow

lemma not_isRow_of_row_eq_error (h : Table.row columns index record = .error fault) :
    ¬∃ row, IsRow columns record.fields row := by
  rintro ⟨row, hrow⟩
  rw [row_eq_ok_iff_isRow.2 hrow] at h
  cases h

lemma rowsFrom_eq_error_iff : rowsFrom columns index records = .error fault ↔
    ∃ passed record, FirstWithout (fun record => ∃ row, IsRow columns record.fields row)
        records passed record ∧
      Fails columns (index + passed.length) record fault := by
  induction records generalizing index with
  | nil => simp [rowsFrom, not_firstWithout_nil]
  | cons record records ih =>
    rw [rowsFrom]
    rcases hrow : Table.row columns index record with fault' | row
    · have hfault : fault' = fault ↔ Fails columns index record fault := by
        rw [← row_eq_error_iff, hrow, Except.error.injEq]
      rw [exists_firstWithout_of_fails (p := fun record : Csv.Record =>
        ∃ row, IsRow columns record.fields row) (not_isRow_of_row_eq_error hrow)]
      exact Iff.trans ⟨Except.error.inj, congrArg _⟩ hfault
    · rw [exists_firstWithout_of_passes (p := fun record : Csv.Record =>
        ∃ row, IsRow columns record.fields row) ⟨row, row_eq_ok_iff_isRow.1 hrow⟩]
      simp only [map_eq_error_iff, ih, List.length_cons, Nat.add_right_comm index,
        ← Nat.add_assoc]

/-- **The first fault is reported**, and there is one exactly if the records are no table. -/
theorem ofRecords_eq_error_iff : ofRecords records = .error fault ↔ FirstFault records fault := by
  constructor
  · intro h
    unfold ofRecords at h
    rcases records with _ | ⟨header, more⟩
    · obtain rfl := Except.error.inj h
      exact .empty
    · rcases htexts : Table.texts 0 header.fields with ⟨place, good⟩ | names
      · simp only [htexts, Except.error.injEq] at h
        subst h
        obtain ⟨passed, field, hfirst, hgood, rfl⟩ := texts_eq_error_iff.1 htexts
        rw [Nat.zero_add]
        exact .headerText hfirst hgood
      · have hread := texts_eq_ok_iff.1 htexts
        rcases names with _ | ⟨first, columns⟩
        · simp only [htexts, Except.error.injEq] at h
          subst h
          exact .headerName hread (by simp)
        · simp only [htexts] at h
          split_ifs at h with hfirst
          · rw [map_eq_error_iff] at h
            obtain ⟨passed, record, hpassed, hfails⟩ := rowsFrom_eq_error_iff.1 h
            rw [Nat.add_comm] at hfails
            exact .record ⟨header, more, columns, passed, record, rfl, hfirst ▸ hread, hpassed,
              rfl, hfails⟩
          · obtain rfl := Except.error.inj h
            exact .headerName hread (by simpa using hfirst)
  · intro h
    unfold ofRecords
    cases h with
    | empty => rfl
    | headerText hfirst hgood =>
      simp only [texts_eq_error_iff.2 ⟨_, _, hfirst, hgood, (Nat.zero_add _).symm⟩]
    | headerName htexts hname =>
      rename_i names
      rcases names with _ | ⟨first, columns⟩
      · simp only [texts_eq_ok_iff.2 htexts]
      · have hfirst : first ≠ Metric.sizeColumn := by simpa using hname
        simp only [texts_eq_ok_iff.2 htexts, hfirst, if_false]
    | record h =>
      obtain ⟨header, more, columns, passed, record, rfl, hheader, hpassed, rfl, hfails⟩ := h
      rw [Nat.add_comm] at hfails
      have hrows := rowsFrom_eq_error_iff.2 ⟨passed, record, hpassed, hfails⟩
      simp only [texts_eq_ok_iff.2 hheader, if_true, hrows, map_eq_error_iff]

/-- **The reader accepts exactly the tables and reports the first fault.**  A file is read as a table
exactly if its records are that table, and every row of it has a value for each column; and a fault
is reported exactly if it is the first one of the records. -/
theorem ofBytes_accepts_iff (bs : Bytes) :
    (∀ table, ofBytes bs = .ok table ↔ IsTable (Csv.fieldsOf bs) table) ∧
      (∀ table, ofBytes bs = .ok table →
        ∀ row ∈ table.rows, row.values.length = table.columns.length) ∧
      ∀ fault, ofBytes bs = .error fault ↔ FirstFault (Csv.records bs) fault := by
  have haccepts : ∀ table, ofBytes bs = .ok table ↔ IsTable (Csv.fieldsOf bs) table :=
    fun table => ofBytes_eq_ok_iff.trans forms_iff_isTable
  exact ⟨haccepts, fun table h => ((haccepts table).1 h).length_values,
    fun fault => ofRecords_eq_error_iff⟩

/-- A bad size counts before a bad value of its record and before the length of a later one. -/
example : ofBytes (Text.encode "size,ns,ms\n8,1,2\nx,slow,1\n16,1\n") =
    .error (.invalidField 3 "size" "x") := by
  decide +kernel

end Faults

/-! ### The line of a fault -/

section Lines

variable {records : List Csv.Record} {index line : ℕ} {column value : String} {fault : Fault}

/-- A bad field is never in the header. -/
lemma FirstFault.exists_offends (h : FirstFault records (.invalidField line column value)) :
    ∃ index, Offends records index (.invalidField line column value) := by
  cases h with
  | record h => exact ⟨_, h⟩

lemma Offends.exists_record (h : Offends records index fault) :
    ∃ place columns record, index = place + 1 ∧ records[place + 1]? = some record ∧
      Fails columns index record fault := by
  obtain ⟨header, more, columns, passed, record, rfl, -, hfirst, rfl, hfails⟩ := h
  refine ⟨passed.length, columns, record, rfl, ?_, hfails⟩
  obtain ⟨rest, rfl⟩ := hfirst.prefixed
  simp

lemma Fails.line_eq {columns : List String} {record : Csv.Record}
    (h : Fails columns index record (.invalidField line column value)) :
    line = record.start.line := by
  cases h <;> rfl

/-- **The line of a bad field** is the one behind the end of the record before.  It is the line on
which the record at fault begins exactly if no line feed is skipped between the two; each one that
is skipped makes it one less.  A byte order mark has no line feed, so no line depends on it. -/
theorem line_of_invalidField (bs : Bytes) (line : ℕ) (column value : String)
    (h : ofBytes bs = .error (.invalidField line column value)) :
    ∃ index ended skipped, Offends (Csv.records bs) index (.invalidField line column value) ∧
      Csv.Gap .between {} (Csv.unmarked bs) index ended skipped ∧
      (∀ front, Csv.BeginsAfter (Csv.unmarked bs) index front ↔ front = ended ++ skipped) ∧
      line = Csv.lineAfter ended ∧
      Csv.lineAfter (ended ++ skipped) = line + skipped.count 0x0A ∧
      (line = Csv.lineAfter (ended ++ skipped) ↔ 0x0A ∉ skipped) := by
  obtain ⟨index, hoffends⟩ := (ofRecords_eq_error_iff.1 h).exists_offends
  obtain ⟨place, columns, record, rfl, hrecord, hfails⟩ := hoffends.exists_record
  obtain ⟨ended, skipped, hgap, hstart⟩ := Csv.line_of_records hrecord
  have hline : line = Csv.lineAfter ended := hfails.line_eq.trans hstart
  have hbegins : ∀ front, Csv.BeginsAfter (Csv.unmarked bs) (place + 1) front ↔
      front = ended ++ skipped := by
    intro front
    constructor
    · intro hfront
      exact hfront.unique hgap.beginsAfter
    · rintro rfl
      exact hgap.beginsAfter
  have hmissed : Csv.lineAfter (ended ++ skipped) = line + skipped.count 0x0A := by
    rw [Csv.lineAfter_append, hline]
  refine ⟨place + 1, ended, skipped, hoffends, hgap, hbegins, hline, hmissed, ?_⟩
  rw [hmissed, Nat.left_eq_add, List.count_eq_zero]

/-- A line feed inside quotes counts. -/
theorem line_of_invalidField_quoted :
    let bs := Text.encode "size,ns\n8,\"1\n\"\n16,fast\n"
    ofBytes bs = .error (.invalidField 4 "ns" "fast") ∧
      ∃ index ended skipped, Offends (Csv.records bs) index (.invalidField 4 "ns" "fast") ∧
        Csv.Gap .between {} (Csv.unmarked bs) index ended skipped ∧
        (∀ front, Csv.BeginsAfter (Csv.unmarked bs) index front ↔ front = ended ++ skipped) ∧
        4 = Csv.lineAfter ended ∧
        Csv.lineAfter (ended ++ skipped) = 4 + skipped.count 0x0A ∧
        (4 = Csv.lineAfter (ended ++ skipped) ↔ 0x0A ∉ skipped) := by
  intro bs
  have h : ofBytes bs = .error (.invalidField 4 "ns" "fast") := by decide +kernel
  exact ⟨h, line_of_invalidField bs 4 "ns" "fast" h⟩

/-- With a carriage return and a line feed after the header, the row behind it begins on the second
line, and the first is reported. -/
theorem not_forall_line_of_invalidField :
    ¬∀ (bs : Bytes) (line : ℕ) (column value : String) (index : ℕ) (front : Bytes),
      ofBytes bs = .error (.invalidField line column value) →
      Offends (Csv.records bs) index (.invalidField line column value) →
      Csv.BeginsAfter (Csv.unmarked bs) index front → line = Csv.lineAfter front := by
  intro hall
  let bs := Text.encode "size,ns\r\n8,fast\r\n"
  let header : Csv.Record := ⟨⟨0, 1⟩, [Text.encode "size", Text.encode "ns"]⟩
  let record : Csv.Record := ⟨⟨8, 1⟩, [Text.encode "8", Text.encode "fast"]⟩
  have hread : ofBytes bs = .error (.invalidField 1 "ns" "fast") := by decide +kernel
  have hrow : Table.row ["ns"] 1 record = .error (.invalidField 1 "ns" "fast") := by
    decide +kernel
  have hheader : Table.texts 0 header.fields = .ok ["size", "ns"] := by decide +kernel
  have hoffends : Offends (Csv.records bs) 1 (.invalidField 1 "ns" "fast") :=
    ⟨header, [record], ["ns"], [], record, by decide +kernel, texts_eq_ok_iff.1 hheader,
      ⟨List.prefix_refl _, by simp, not_isRow_of_row_eq_error hrow⟩, rfl, row_eq_error_iff.1 hrow⟩
  have hbegins : Csv.BeginsAfter (Csv.unmarked bs) 1 (Text.encode "size,ns\r\n") :=
    ⟨⟨0x38, Text.encode ",fast\r\n", by decide +kernel, rfl⟩, by decide +kernel,
      by decide +kernel⟩
  have hline : 1 ≠ Csv.lineAfter (Text.encode "size,ns\r\n") := by decide +kernel
  exact hline (hall bs 1 "ns" "fast" 1 _ hread hoffends hbegins)

end Lines

end Table

end SizeSweep
