import SizeSweep.Proofs.Csv.Fields
import SizeSweep.Proofs.Store.ReadBack
import SizeSweep.Proofs.Table

/-!
Which stores can be opened again.  The check of the metrics lets some columns through that the
reader does not take as they stand: names with line ends, with white space at their ends, or with
a quote in front.  A file under such a column never has the header of its store.
-/

namespace SizeSweep

/-! ### Checked columns -/

section Checked

variable {metrics : List Metric} {seen : List String} {m : Metric}

lemma comma_not_mem_of_checkAfter (h : Metric.checkAfter seen metrics = .ok ()) (hm : m ∈ metrics) :
    ',' ∉ m.column.toList := by
  induction metrics generalizing seen with
  | nil => cases hm
  | cons first metrics ih =>
    rw [Metric.checkAfter] at h
    split_ifs at h with hcolumn
    rcases List.mem_cons.1 hm with rfl | hm
    · simp only [Bool.or_eq_true, not_or, List.contains_iff_mem] at hcolumn
      exact hcolumn.2
    · exact ih h hm

lemma comma_not_mem_of_check (h : Metric.check metrics = .ok ()) (hm : m ∈ metrics) :
    ',' ∉ m.column.toList := by
  unfold Metric.check at h
  split_ifs at h
  exact comma_not_mem_of_checkAfter h hm

end Checked

/-! ### Fields and columns -/

namespace ReadAs

variable {field : Bytes} {column s : String}

lemma trimmed (h : ReadAs field column) : Text.trimmed column = column := by
  obtain ⟨text, -, rfl⟩ := h
  exact Text.trimmed_trimmed text

/-- A mark that is not blank stands in the field as often as in the name. -/
lemma count_eq (h : ReadAs field column) {c : Char} (hc : c.toNat < 128)
    (hblank : Text.isBlank c = false) :
    field.count (UInt8.ofNat c.toNat) = (Text.encode column).count (UInt8.ofNat c.toNat) := by
  obtain ⟨text, htext, rfl⟩ := h
  rw [← Text.encode_of_decode htext, Text.count_encode hc, Text.count_encode hc]
  simp [Text.trimmed, Text.count_trim hblank]

/-- Every character of the name stands in the text of the field. -/
lemma mem_of_mem (h : ReadAs (Text.encode s) column) {c : Char} (hc : c ∈ column.toList) :
    c ∈ s.toList := by
  obtain ⟨text, htext, rfl⟩ := h
  rw [Text.decode_encode] at htext
  obtain rfl : s = text := by simpa using htext
  exact Text.mem_of_mem_trim (by simpa [Text.trimmed] using hc)

end ReadAs

/-! ### Headers -/

section Headers

open Csv

variable {columns : List String} {column : String} {done fields : List Bytes} {rest : Bytes}
  {start here : Position} {tail : List Record}

/-- A name with a quote in front is not read back: its field goes on to where a quote follows that
is not its own, and before that comes a comma or nothing. -/
lemma head?_ne_quote (hcomma : ',' ∉ column.toList)
    (hrest : ∀ used after, rest = used ++ after → comma ∉ used → quote ∉ used)
    (hrecords : recordsFrom .fieldStart ⟨done, []⟩ start here (Text.encode column ++ rest) =
      ⟨start, done.reverse ++ fields⟩ :: tail)
    (hread : ∀ field ∈ fields.head?, ReadAs field column) :
    column.toList.head? ≠ some '"' := by
  intro hquote
  obtain ⟨cs, hcs⟩ := List.head?_eq_some_iff.1 hquote
  set inner := cs.flatMap String.utf8EncodeChar with hinner
  have hbytes : Text.encode column = quote :: inner := by
    rw [Text.encode, hcs]
    rfl
  rw [hbytes, List.cons_append, recordsFrom] at hrecords
  simp only [step, if_true] at hrecords
  obtain ⟨used, after, content, more, tail', hsplit, htaken, htakes⟩ :=
    recordsFrom_takes (by simp : Place.quoted ≠ .between ∧ Place.quoted ≠ .fieldStart) done []
      start (here.next quote) (inner ++ rest)
  rw [htakes] at hrecords
  have hfields : fields = content :: more := by
    have := (List.cons.inj hrecords).1
    simpa using (congrArg Record.fields this).symm
  have hcontent : ReadAs content column := hread content (by rw [hfields]; rfl)
  -- the field has all the quotes of the name, and the one in front was not kept
  have hquotes : content.count quote = inner.count quote + 1 := by
    have hcount := hcontent.count_eq (c := '"') (by decide) (by decide)
    rw [hbytes] at hcount
    exact hcount.trans List.count_cons_self
  have hnone : comma ∉ content := by
    have hcount := hcontent.count_eq (c := ',') (by decide) (by decide)
    rw [Text.count_encode (by decide), List.count_eq_zero_of_not_mem hcomma] at hcount
    exact List.count_eq_zero.1 hcount
  have hle := htaken.quotes_le hsplit hnone hrest
  omega

lemma utf8EncodeChar_lineEnd {e : Char} (he : e = '\r' ∨ e = '\n') :
    ∃ b, isLineEnd b = true ∧ String.utf8EncodeChar e = [b] := by
  rcases he with rfl | rfl
  · exact ⟨0x0D, rfl, rfl⟩
  · exact ⟨0x0A, rfl, rfl⟩

/-- A text with a line end, split at the first one. -/
lemma exists_first_lineEnd {cs : List Char} (h : ∃ c ∈ cs, c = '\r' ∨ c = '\n') :
    ∃ before e after, cs = before ++ e :: after ∧ (e = '\r' ∨ e = '\n') ∧
      ∀ d ∈ before, d ≠ '\r' ∧ d ≠ '\n' := by
  have hsome : (cs.find? fun c => c = '\r' || c = '\n').isSome = true := by
    simpa [List.find?_isSome] using h
  obtain ⟨e, he⟩ := Option.isSome_iff_exists.1 hsome
  obtain ⟨hend, before, after, hsplit, hbefore⟩ := List.find?_eq_some_iff_append.1 he
  exact ⟨before, e, after, hsplit, by simpa using hend, fun d hd => by simpa using hbefore d hd⟩

/-- A name with a line end is not read back: the field ends before it. -/
lemma no_lineEnd (hcomma : ',' ∉ column.toList) (hfirst : column.toList.head? ≠ some '"')
    (hrecords : recordsFrom .fieldStart ⟨done, []⟩ start here (Text.encode column ++ rest) =
      ⟨start, done.reverse ++ fields⟩ :: tail)
    (hread : ∀ field ∈ fields.head?, ReadAs field column) :
    ∀ c ∈ column.toList, c ≠ '\r' ∧ c ≠ '\n' := by
  intro c hc
  rw [← not_or]
  intro hend
  -- the first line end of the name ends the field, which then lacks this character
  obtain ⟨before, e, after, hsplit, he, hbefore⟩ := exists_first_lineEnd ⟨c, hc, hend⟩
  obtain ⟨b, hb, hbytes⟩ := utf8EncodeChar_lineEnd he
  have hbare : Bare (Text.encode (String.ofList before)) := by
    refine bare_encode (fun d hd => ?_) fun hq => hfirst ?_
    · rw [String.toList_ofList] at hd
      refine ⟨?_, hbefore d hd⟩
      rintro rfl
      exact hcomma (by simp [hsplit, hd])
    · rw [String.toList_ofList] at hq
      rw [hsplit, List.head?_append, hq]
      rfl
  have hencode : Text.encode column =
      Text.encode (String.ofList before) ++ b :: after.flatMap String.utf8EncodeChar := by
    rw [Text.encode, hsplit, List.flatMap_append, List.flatMap_cons, hbytes, Text.encode_ofList]
    rfl
  rw [hencode, List.append_assoc, List.cons_append, recordsFrom_lineEnd hbare hb] at hrecords
  have hfields : fields = [Text.encode (String.ofList before)] := by
    have := (List.cons.inj hrecords).1
    simpa using (congrArg Record.fields this).symm
  have hfield : ReadAs (Text.encode (String.ofList before)) column :=
    hread _ (by rw [hfields]; rfl)
  have hmem : e ∈ before := by
    have := hfield.mem_of_mem (c := e) (by simp [hsplit])
    simpa using this
  exact not_or.2 (hbefore e hmem) he

lemma legible_of_readAs (hcomma : ',' ∉ column.toList)
    (hrest : ∀ used after, rest = used ++ after → comma ∉ used → quote ∉ used)
    (hrecords : recordsFrom .fieldStart ⟨done, []⟩ start here (Text.encode column ++ rest) =
      ⟨start, done.reverse ++ fields⟩ :: tail)
    (hread : ∃ field, fields.head? = some field ∧ ReadAs field column) : Legible column := by
  obtain ⟨field, hfield, hread⟩ := hread
  have hhead : ∀ f ∈ fields.head?, ReadAs f column := by simpa [hfield] using hread
  have hfirst := head?_ne_quote hcomma hrest hrecords hhead
  have hinside := no_lineEnd hcomma hfirst hrecords hhead
  exact ⟨fun c hc => ⟨fun h => hcomma (h ▸ hc), hinside c hc⟩, hfirst, hread.trimmed⟩

/-- If the columns are read back from the rest of a header, all of them are legible. -/
lemma legible_of_forall₂ (hcomma : ∀ column ∈ columns, ',' ∉ column.toList) (hrest : quote ∉ rest)
    (hrecords : recordsFrom .fieldStart ⟨done, []⟩ start here
      (lineOf (columns.map Text.encode) ++ rest) = ⟨start, done.reverse ++ fields⟩ :: tail)
    (hread : List.Forall₂ ReadAs fields columns) : ∀ column ∈ columns, Legible column := by
  induction columns generalizing done fields here tail with
  | nil => simp
  | cons column columns ih =>
    obtain ⟨hc, hcs⟩ := List.forall_mem_cons.1 hcomma
    obtain ⟨field, fields', hfield, hfields', rfl⟩ := List.forall₂_cons_right_iff.1 hread
    rcases columns with _ | ⟨next, columns⟩
    · rw [List.map_cons, List.map_nil, lineOf_singleton, List.append_assoc] at hrecords
      have hlast : ∀ used after, [0x0A] ++ rest = used ++ after → comma ∉ used → quote ∉ used := by
        intro used after hsplit _ hmem
        have hmem' : quote ∈ [0x0A] ++ rest := hsplit ▸ List.mem_append_left after hmem
        rcases List.mem_cons.1 hmem' with heq | hmem'
        · exact absurd heq (by decide)
        · exact hrest hmem'
      simpa using legible_of_readAs hc hlast hrecords ⟨field, rfl, hfield⟩
    · rw [List.map_cons, List.map_cons, lineOf_cons_cons, List.append_assoc] at hrecords
      have hsep : ∀ used after, comma :: lineOf (Text.encode next :: columns.map Text.encode) ++
          rest = used ++ after → comma ∉ used → quote ∉ used := by
        intro used after hsplit hnone
        rcases used with _ | ⟨b, used⟩
        · simp
        · obtain rfl : comma = b := by simpa using (List.cons.inj hsplit).1
          exact absurd (List.mem_cons_self ..) hnone
      have hlegible := legible_of_readAs hc hsep hrecords ⟨field, rfl, hfield⟩
      -- the name is taken as it stands, and the record goes on behind it
      rw [List.cons_append, recordsFrom_comma hlegible.bare] at hrecords
      obtain ⟨more, tail', hkeeps⟩ := recordsFrom_keeps (by simp : Place.fieldStart ≠ .between)
        (Text.encode column :: done) [] start (here.after (Text.encode column ++ [comma]))
        (lineOf (Text.encode next :: columns.map Text.encode) ++ rest)
      rw [hkeeps] at hrecords
      have hsame : (Text.encode column :: done).reverse ++ more =
          done.reverse ++ field :: fields' := congrArg Record.fields (List.cons.inj hrecords).1
      rw [List.reverse_cons, List.append_assoc, List.singleton_append] at hsame
      obtain ⟨rfl, rfl⟩ := List.cons.inj (List.append_cancel_left hsame)
      exact List.forall_mem_cons.2 ⟨hlegible, ih hcs hkeeps hfields'⟩

end Headers

/-! ### Opening a store again -/

namespace Store

variable {path : String} {metrics : List Metric} {rows : List Row} {spot : Spot}
  {columns : List String} {bytes : Bytes}

lemma quote_not_mem_rowLines (rows : List Row) : Csv.quote ∉ rows.flatMap rowLine := by
  intro hmem
  obtain ⟨row, -, hrow⟩ := List.mem_flatMap.1 hmem
  rw [rowLine_eq] at hrow
  rcases Csv.mem_lineOf hrow with h | h | ⟨field, hfield, h⟩
  · exact absurd h (by decide)
  · exact absurd h (by decide)
  · obtain ⟨s, hs, rfl⟩ := List.mem_map.1 hfield
    have := toNat_of_mem_encode (isNumberChar_fields hs) h
    exact absurd this (by decide)

/-- A file whose header is read back has legible columns only. -/
lemma legible_of_ofBytes {table : Table} (hcomma : ∀ column ∈ columns, ',' ∉ column.toList)
    (h : Table.ofBytes (contents columns rows) = .ok table) (hcolumns : table.columns = columns) :
    ∀ column ∈ columns, Legible column := by
  set origin : Csv.Position := ⟨0, 1⟩ with horigin
  have hfront : Csv.records (contents columns rows) =
      Csv.recordsFrom .fieldStart ⟨[], []⟩ origin origin
        (Csv.lineOf ((Metric.sizeColumn :: columns).map Text.encode) ++ rows.flatMap rowLine) := by
    obtain ⟨tail, htail⟩ := exists_line_header columns
    rw [records_contents, ← Csv.line_eq]
    unfold contents
    rw [htail, List.cons_append, Csv.recordsFrom_between {} (by decide)]
  obtain ⟨fields, tail, hkeeps⟩ := Csv.recordsFrom_keeps
    (by simp : Csv.Place.fieldStart ≠ .between) [] [] origin origin
    (Csv.lineOf ((Metric.sizeColumn :: columns).map Text.encode) ++ rows.flatMap rowLine)
  unfold Table.ofBytes at h
  rw [hfront, hkeeps] at h
  unfold Table.ofRecords at h
  simp only [List.reverse_nil, List.nil_append] at h
  split at h
  · cases h
  · cases h
  · rename_i first found htexts
    split_ifs at h with hsize
    rcases hrows : Table.rowsFrom found 1 tail with fault | read
    · simp [hrows, Except.map] at h
    · obtain rfl : (⟨found, read⟩ : Table) = table := by simpa [hrows, Except.map] using h
      obtain rfl : found = columns := hcolumns
      rw [hsize] at htexts
      have hcomma' : ∀ column ∈ Metric.sizeColumn :: found, ',' ∉ column.toList :=
        List.forall_mem_cons.2 ⟨by decide, hcomma⟩
      have hall := legible_of_forall₂ hcomma' (quote_not_mem_rowLines rows) hkeeps
        (Table.texts_eq_ok_iff.1 htexts)
      exact fun column hcolumn => hall column (List.mem_cons_of_mem _ hcolumn)

/-- **Which stores can be opened again.**  After the metrics are checked, a file with any rows is
opened with exactly their sizes if all columns are legible, and it is refused if one is not. -/
theorem resume_written (path : String) (metrics : List Metric) (spot : Spot) (rows : List Row)
    (hcheck : Metric.check metrics = .ok ()) (hspot : ∀ fault, spot ≠ .blocked fault)
    (hwidth : ∀ row ∈ rows, row.values.length = metrics.length) :
    ∃ bytes, (forMetrics path metrics).written spot rows = .ok bytes ∧
      ((∀ m ∈ metrics, Legible m.column) →
        (forMetrics path metrics).resume (.content bytes) = .ok (bytes, rows.map Row.size)) ∧
      ((∃ m ∈ metrics, ¬Legible m.column) →
        ∃ fault, (forMetrics path metrics).resume (.content bytes) = .error fault) := by
  refine ⟨_, written_eq hspot hwidth, fun h => resume_contents h hwidth, ?_⟩
  rintro ⟨m, hm, hillegible⟩
  set columns := metrics.map Metric.column with hcolumns
  obtain ⟨tail, htail⟩ := exists_line_header columns
  have hne : ∃ b bs, contents columns rows = b :: bs :=
    ⟨_, _, by unfold contents; rw [htail, List.cons_append]⟩
  obtain ⟨b, bs, hbytes⟩ := hne
  rcases hread : Table.ofBytes (contents columns rows) with fault | table
  · refine ⟨.read path fault, ?_⟩
    rw [hbytes] at hread ⊢
    simp only [resume, hread, forMetrics]
  · -- reading the header back would make every name legible
    have hcomma : ∀ column ∈ columns, ',' ∉ column.toList := by
      rw [hcolumns]
      simpa using fun m hm => comma_not_mem_of_check hcheck hm
    have hfound : Metric.sizeColumn :: table.columns ≠ Metric.header metrics := by
      intro hsame
      have hlegible := legible_of_ofBytes hcomma hread (List.cons.inj hsame).2
      exact hillegible (hlegible _ (List.mem_map_of_mem hm))
    refine ⟨.schemaMismatch path (Metric.header metrics) (Metric.sizeColumn :: table.columns), ?_⟩
    rw [hbytes] at hread ⊢
    simp only [resume, hread, forMetrics, hfound, if_false]

/-- A column in quotes is let through, and its file is refused. -/
theorem resume_written_quoted_column :
    ∃ bytes, (forMetrics "sweep.csv" [⟨"\"ns\"", "mean"⟩]).written .missing
        [⟨8, [Binary64.zero false]⟩] = .ok bytes ∧
      ∃ fault, (forMetrics "sweep.csv" [⟨"\"ns\"", "mean"⟩]).resume (.content bytes) =
        .error fault := by
  obtain ⟨bytes, hwritten, -, hrefused⟩ := resume_written "sweep.csv" [⟨"\"ns\"", "mean"⟩] .missing
    [⟨8, [Binary64.zero false]⟩] (by decide) (by simp) (by simp)
  exact ⟨bytes, hwritten, hrefused ⟨_, List.mem_cons_self .., fun h => h.first (by decide)⟩⟩

/-- The check of the metrics is not enough for a file that can be opened again. -/
theorem not_forall_resume_written :
    ¬∀ (path : String) (metrics : List Metric) (spot : Spot) (rows : List Row),
      Metric.check metrics = .ok () → (∀ fault, spot ≠ .blocked fault) →
      (∀ row ∈ rows, row.values.length = metrics.length) →
      ∃ bytes, (forMetrics path metrics).written spot rows = .ok bytes ∧
        (forMetrics path metrics).resume (.content bytes) = .ok (bytes, rows.map Row.size) := by
  intro h
  obtain ⟨bytes, hwritten, hresume⟩ := h "sweep.csv" [⟨"\"ns\"", "mean"⟩] .missing []
    (by decide) (by simp) (by simp)
  have hbytes : bytes = Csv.line ["size", "\"ns\""] := by
    rw [written_eq (by simp) (by simp)] at hwritten
    exact (Except.ok.inj hwritten).symm
  have hrefused : (forMetrics "sweep.csv" [⟨"\"ns\"", "mean"⟩]).resume
      (.content (Csv.line ["size", "\"ns\""])) =
        .error (.schemaMismatch "sweep.csv" ["size", "\"ns\""] ["size", "ns"]) := by
    decide +kernel
  rw [hbytes, hrefused] at hresume
  cases hresume

end Store

end SizeSweep
