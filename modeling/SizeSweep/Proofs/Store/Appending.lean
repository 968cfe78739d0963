import SizeSweep.Proofs.Store.Reopening

/-!
Rows appended to what was there.  A store that is opened again keeps the table it found, whatever the
file looks like, and opening it once more changes nothing.  Rows appended to it are read behind the
rows of this table, unless a quoted field is open at the end of the file: then they are taken into
that field.
-/

namespace SizeSweep

section Lines

variable {columns : List String} {row : Row} {rows : List Row}

lemma spells_row (hwidth : row.values.length = columns.length) :
    Table.Spells columns (row.fields.map Text.encode) row.canonical := by
  have hrow : Table.row columns 0 ⟨⟨0, 1⟩, row.fields.map Text.encode⟩ = .ok row.canonical :=
    row_fields 0 rfl hwidth
  exact Table.row_eq_ok_iff.1 hrow

lemma forall₂_spells (hwidth : ∀ row ∈ rows, row.values.length = columns.length) :
    List.Forall₂ (Table.Spells columns) (rows.map fun row => row.fields.map Text.encode)
      (rows.map Row.canonical) := by
  rw [List.forall₂_map_left_iff, List.forall₂_map_right_iff, List.forall₂_same]
  exact fun row hrow => spells_row (hwidth row hrow)

lemma fieldsFrom_rowLines (rows : List Row) :
    Csv.fieldsFrom .between {} (rows.flatMap Store.rowLine) =
      rows.map fun row => row.fields.map Text.encode := by
  have htext : rows.flatMap Store.rowLine =
      Csv.text (rows.map fun row => row.fields.map Text.encode) := by
    unfold Csv.text
    rw [List.flatMap_map]
    exact List.flatMap_congr fun row _ => rowLine_eq row
  rw [htext]
  refine Csv.recordsFrom_text fun fields hfields => ?_
  obtain ⟨row, -, rfl⟩ := List.mem_map.1 hfields
  exact regular_row row

end Lines

namespace Store

/-! ### The line feed at the end -/

section Terminated

variable {bytes more : Bytes}

lemma terminated_cases (bytes : Bytes) :
    (∃ init, bytes = init ++ [0x0A] ∧ terminated bytes = bytes) ∨
      terminated bytes = bytes ++ [0x0A] := by
  unfold terminated
  split_ifs with hlast
  · exact Or.inl ⟨bytes.dropLast, (List.dropLast_append_getLast? _ hlast).symm, rfl⟩
  · exact Or.inr rfl

lemma getLast?_terminated (bytes : Bytes) : (terminated bytes).getLast? = some 0x0A := by
  rcases terminated_cases bytes with ⟨init, rfl, hterminated⟩ | hterminated
  · rw [hterminated, List.getLast?_concat]
  · rw [hterminated, List.getLast?_concat]

@[simp] lemma terminated_terminated (bytes : Bytes) :
    terminated (terminated bytes) = terminated bytes :=
  if_pos (getLast?_terminated bytes)

lemma unmarked_terminated (bytes : Bytes) :
    ∃ ending, (ending = [] ∨ ending = [0x0A]) ∧ ∀ more,
      Csv.unmarked (terminated bytes ++ more) = Csv.unmarked bytes ++ (ending ++ more) := by
  rcases terminated_cases bytes with ⟨init, rfl, hterminated⟩ | hterminated
  · refine ⟨[], Or.inl rfl, fun more => ?_⟩
    rw [hterminated, List.append_assoc, List.singleton_append, Csv.unmarked_append_lineFeed,
      Csv.unmarked_append_lineFeed, List.append_assoc]
    rfl
  · refine ⟨[0x0A], Or.inr rfl, fun more => ?_⟩
    rw [hterminated, List.append_assoc, List.singleton_append, Csv.unmarked_append_lineFeed]

/-- Outside quotes the records of appended lines follow those of the file. -/
lemma fieldsOf_terminated_append (hclosed : ¬Csv.OpenQuote bytes) (more : Bytes) :
    Csv.fieldsOf (terminated bytes ++ more) =
      Csv.fieldsOf bytes ++ Csv.fieldsFrom .between {} more := by
  rw [Csv.fieldsOf_eq, Csv.fieldsOf_eq]
  rcases terminated_cases bytes with ⟨init, rfl, hterminated⟩ | hterminated
  · have hinit : (Csv.standing .between {} (Csv.unmarked init)).1 ≠ .quoted := by
      intro hquoted
      refine hclosed ?_
      unfold Csv.OpenQuote
      rcases hpending : (Csv.standing .between {} (Csv.unmarked init)).2 with ⟨fields, acc⟩
      rw [Csv.unmarked_append_lineFeed, Csv.standing_append, hquoted, hpending,
        Csv.standing_quoted fields acc (by decide)]
    rw [hterminated, List.append_assoc, List.singleton_append, Csv.unmarked_append_lineFeed,
      Csv.unmarked_append_lineFeed, Csv.fieldsFrom_append_lineFeed hinit,
      Csv.fieldsFrom_append_lineFeed hinit, List.append_assoc]
    rfl
  · rw [hterminated, List.append_assoc, List.singleton_append, Csv.unmarked_append_lineFeed]
    exact Csv.fieldsFrom_append_lineFeed hclosed more

/-- Inside quotes they all go into the last field. -/
lemma fieldsOf_terminated_quoted (hopen : Csv.OpenQuote bytes) :
    ∃ done fields field ending, (ending = [] ∨ ending = [0x0A]) ∧
      Csv.fieldsOf bytes = done ++ [fields ++ [field]] ∧
      ∀ more, Csv.quote ∉ more →
        Csv.fieldsOf (terminated bytes ++ more) =
          done ++ [fields ++ [field ++ (ending ++ more)]] := by
  obtain ⟨ending, hending, hunmarked⟩ := unmarked_terminated bytes
  obtain ⟨done, fields, field, hquoted⟩ := Csv.fieldsFrom_append_quoted hopen
  refine ⟨done, fields, field, ending, hending, ?_, fun more hmore => ?_⟩
  · simpa [Csv.fieldsOf_eq] using hquoted [] (by simp)
  · rw [Csv.fieldsOf_eq, hunmarked]
    refine hquoted _ fun hmem => ?_
    rcases List.mem_append.1 hmem with hmem | hmem
    · rcases hending with rfl | rfl <;> revert hmem <;> decide
    · exact hmore hmem

end Terminated

/-! ### Rows behind a table -/

section Appended

variable {path : String} {metrics : List Metric} {bytes opened : Bytes} {sizes : List UInt64}
  {table : Table} {rows : List Row}

/-- What is there is opened again if it is a table with the columns of the metrics. -/
lemma resume_content_iff (hne : bytes ≠ []) :
    (forMetrics path metrics).resume (.content bytes) = .ok (opened, sizes) ↔
      ∃ table, Table.ofBytes bytes = .ok table ∧ table.columns = metrics.map Metric.column ∧
        opened = terminated bytes ∧ sizes = table.sizes := by
  obtain ⟨b, bs, rfl⟩ := List.exists_cons_of_ne_nil hne
  constructor
  · intro h
    unfold resume at h
    rcases hread : Table.ofBytes (b :: bs) with fault | table
    · simp [hread] at h
    · simp only [hread] at h
      split_ifs at h with hheader
      cases h
      exact ⟨table, rfl, (List.cons.inj hheader).2, rfl, rfl⟩
  · rintro ⟨table, hread, hcolumns, rfl, rfl⟩
    unfold resume
    simp only [hread]
    rw [if_pos (by rw [hcolumns]; rfl)]

/-- Outside quotes rows are read behind the table. -/
lemma ofBytes_append_of_closed (hread : Table.ofBytes bytes = .ok table)
    (hclosed : ¬Csv.OpenQuote bytes)
    (hwidth : ∀ row ∈ rows, row.values.length = table.columns.length) :
    Table.ofBytes (terminated bytes ++ rows.flatMap rowLine) =
      .ok ⟨table.columns, table.rows ++ rows.map Row.canonical⟩ := by
  rw [Table.ofBytes_eq_ok_iff] at hread ⊢
  rw [fieldsOf_terminated_append hclosed, fieldsFrom_rowLines]
  exact hread.append (forall₂_spells hwidth)

/-- Inside quotes the line feed at the end makes no difference. -/
lemma ofBytes_terminated_of_open (hread : Table.ofBytes bytes = .ok table)
    (hopen : Csv.OpenQuote bytes) : Table.ofBytes (terminated bytes) = .ok table := by
  obtain ⟨done, fields, field, ending, hending, hfields, happended⟩ :=
    fieldsOf_terminated_quoted hopen
  have hterminated := happended [] (by simp)
  rw [List.append_nil, List.append_nil] at hterminated
  rw [Table.ofBytes_eq_ok_iff] at hread ⊢
  rw [hfields] at hread
  rw [hterminated]
  rcases hending with rfl | rfl
  · rwa [List.append_nil]
  · exact hread.lineFeed

/-- The line feed at the end makes no difference. -/
lemma ofBytes_terminated (hread : Table.ofBytes bytes = .ok table) :
    Table.ofBytes (terminated bytes) = .ok table := by
  by_cases hopen : Csv.OpenQuote bytes
  · exact ofBytes_terminated_of_open hread hopen
  · simpa using ofBytes_append_of_closed hread hopen
      (List.forall_mem_nil fun row : Row => row.values.length = table.columns.length)

/-- Inside quotes appended rows add no record, and so no row. -/
lemma length_rows_of_open {grown : Table} (hread : Table.ofBytes bytes = .ok table)
    (hopen : Csv.OpenQuote bytes)
    (hgrown : Table.ofBytes (terminated bytes ++ rows.flatMap rowLine) = .ok grown) :
    grown.rows.length = table.rows.length := by
  obtain ⟨done, fields, field, ending, -, hfields, happended⟩ := fieldsOf_terminated_quoted hopen
  rw [Table.ofBytes_eq_ok_iff] at hread hgrown
  rw [happended _ (quote_not_mem_rowLines rows)] at hgrown
  rw [hfields] at hread
  have hlength := hread.length
  have hlength' := hgrown.length
  simp only [List.length_append, List.length_singleton] at hlength hlength'
  omega

/-- **Appended rows are read behind those that were there**, under the same columns, exactly if no
quoted field is open at the end of what was there, or nothing is appended. -/
theorem ofBytes_appended_iff (path : String) (metrics : List Metric) (bytes opened : Bytes)
    (sizes : List UInt64) (rows : List Row) (hne : bytes ≠ [])
    (hresume : (forMetrics path metrics).resume (.content bytes) = .ok (opened, sizes))
    (hwidth : ∀ row ∈ rows, row.values.length = metrics.length) :
    ∃ table appended, Table.ofBytes bytes = .ok table ∧ sizes = table.sizes ∧
      (forMetrics path metrics).appendAll opened rows = .ok appended ∧
      (Table.ofBytes appended = .ok ⟨table.columns, table.rows ++ rows.map Row.canonical⟩ ↔
        ¬Csv.OpenQuote bytes ∨ rows = []) := by
  obtain ⟨table, hread, hcolumns, rfl, rfl⟩ := (resume_content_iff hne).1 hresume
  refine ⟨table, _, hread, rfl, appendAll_eq hwidth, ?_, ?_⟩
  · intro hgrown
    by_cases hopen : Csv.OpenQuote bytes
    · -- the open quote takes in every appended row, so there were none
      have hlength := length_rows_of_open hread hopen hgrown
      rw [List.length_append, List.length_map] at hlength
      exact Or.inr (List.length_eq_zero_iff.1 (by omega))
    · exact Or.inl hopen
  · intro h
    by_cases hopen : Csv.OpenQuote bytes
    · obtain rfl := h.resolve_left (not_not.2 hopen)
      simpa using ofBytes_terminated_of_open hread hopen
    · exact ofBytes_append_of_closed hread hopen (by simpa [hcolumns] using hwidth)

/-- A mark, a quoted column, a carriage return and an unfinished line keep no row from being read. -/
theorem ofBytes_appended_marked :
    let bytes := Text.encode "\uFEFFsize,\"ns\"\r8,1"
    ∃ table appended, Table.ofBytes bytes = .ok table ∧ [8] = table.sizes ∧
      (forMetrics "sweep.csv" [⟨"ns", "mean"⟩]).appendAll (bytes ++ [0x0A])
        [⟨16, [Binary64.ofNat 2]⟩] = .ok appended ∧
      (Table.ofBytes appended =
          .ok ⟨table.columns, table.rows ++ [(⟨16, [Binary64.ofNat 2]⟩ : Row)].map Row.canonical⟩ ↔
        ¬Csv.OpenQuote bytes ∨ [(⟨16, [Binary64.ofNat 2]⟩ : Row)] = []) := by
  intro bytes
  have hresume : (forMetrics "sweep.csv" [⟨"ns", "mean"⟩]).resume (.content bytes) =
      .ok (bytes ++ [0x0A], [8]) := by decide +kernel
  exact ofBytes_appended_iff "sweep.csv" [⟨"ns", "mean"⟩] bytes _ _ [⟨16, [Binary64.ofNat 2]⟩]
    (by decide +kernel) hresume (by simp)

/-- Rows appended behind an open quote are lost in it. -/
theorem not_forall_ofBytes_appended :
    ¬∀ (path : String) (metrics : List Metric) (bytes opened : Bytes) (sizes : List UInt64)
        (rows : List Row), bytes ≠ [] →
      (forMetrics path metrics).resume (.content bytes) = .ok (opened, sizes) →
      (∀ row ∈ rows, row.values.length = metrics.length) →
      ∃ table appended, Table.ofBytes bytes = .ok table ∧
        (forMetrics path metrics).appendAll opened rows = .ok appended ∧
        Table.ofBytes appended = .ok ⟨table.columns, table.rows ++ rows.map Row.canonical⟩ := by
  intro h
  have hresume : (forMetrics "sweep.csv" [⟨"ns", "mean"⟩]).resume
      (.content (Text.encode "size,ns\n8,\"1")) =
        .ok (Text.encode "size,ns\n8,\"1\n", [8]) := by decide +kernel
  obtain ⟨table, appended, hread, happended, hgrown⟩ := h "sweep.csv" [⟨"ns", "mean"⟩]
    (Text.encode "size,ns\n8,\"1") _ _ [⟨16, [Binary64.ofNat 2]⟩] (by decide) hresume (by simp)
  rw [appendAll_eq (by simp)] at happended
  obtain rfl := Except.ok.inj happended
  have hlength := length_rows_of_open hread (by decide +kernel) hgrown
  simp at hlength

/-- **Opening a store loses nothing, and opening it again changes nothing.**  At most a line feed
is added to what was there, the content ends with one, and it is read as the same table; and the
store is opened again with the same sizes and the same content. -/
theorem resume_resumed (path : String) (metrics : List Metric) (bytes opened : Bytes)
    (sizes : List UInt64) (hne : bytes ≠ [])
    (hresume : (forMetrics path metrics).resume (.content bytes) = .ok (opened, sizes)) :
    (opened = bytes ∨ opened = bytes ++ [0x0A]) ∧ opened.getLast? = some 0x0A ∧
      (∃ table, Table.ofBytes bytes = .ok table ∧ Table.ofBytes opened = .ok table ∧
        sizes = table.sizes) ∧
      (forMetrics path metrics).resume (.content opened) = .ok (opened, sizes) := by
  obtain ⟨table, hread, hcolumns, rfl, rfl⟩ := (resume_content_iff hne).1 hresume
  have hlast := getLast?_terminated bytes
  have hsame := ofBytes_terminated hread
  have hne' : terminated bytes ≠ [] := by
    intro hnil
    rw [hnil] at hlast
    cases hlast
  refine ⟨?_, hlast, ⟨table, hread, hsame, rfl⟩, ?_⟩
  · rcases terminated_cases bytes with ⟨-, -, hterminated⟩ | hterminated
    · exact Or.inl hterminated
    · exact Or.inr hterminated
  · exact (resume_content_iff hne').2 ⟨table, hsame, hcolumns, (terminated_terminated bytes).symm, rfl⟩

/-- The line feed goes into a quoted field that is open, and is trimmed there. -/
theorem resume_resumed_open_quote :
    let bytes := Text.encode "size,ns\r\n8,\"1"
    bytes ≠ [] ∧ (forMetrics "sweep.csv" [⟨"ns", "mean"⟩]).resume (.content bytes) =
        .ok (bytes ++ [0x0A], [8]) ∧
      (∃ table, Table.ofBytes bytes = .ok table ∧ Table.ofBytes (bytes ++ [0x0A]) = .ok table ∧
        [8] = table.sizes) ∧
      (forMetrics "sweep.csv" [⟨"ns", "mean"⟩]).resume (.content (bytes ++ [0x0A])) =
        .ok (bytes ++ [0x0A], [8]) := by
  intro bytes
  have hne : bytes ≠ [] := by decide
  have hresume : (forMetrics "sweep.csv" [⟨"ns", "mean"⟩]).resume (.content bytes) =
      .ok (bytes ++ [0x0A], [8]) := by decide +kernel
  obtain ⟨-, -, hread, hagain⟩ := resume_resumed "sweep.csv" [⟨"ns", "mean"⟩] bytes _ _ hne hresume
  exact ⟨hne, hresume, hread, hagain⟩

end Appended

end Store

end SizeSweep
