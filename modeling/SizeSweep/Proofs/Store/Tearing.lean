import SizeSweep.Proofs.Csv.Cuts
import SizeSweep.Proofs.Store.Appending

/-!
Files cut off at any byte.  A file under plain columns that was cut off is refused when its store is
opened again, or it is read as the table of its whole rows and at most one further row.  That row
is the next one with the number that is left of its last value, if the cut is inside its text.
-/

namespace SizeSweep

/-! ### Cut rows -/

section Rows

variable {columns : List String} {row read : Row} {cut : List Bytes} {part : Bytes}

/-- A part of the bytes of a number is the bytes of a part of its characters. -/
lemma exists_spelled {s : String} (hs : ∀ c ∈ s.toList, Binary64.isNumberChar c = true)
    (h : part <+: Text.encode s) :
    ∃ spelled lost, s.toList = spelled ++ lost ∧ part = Text.encode (String.ofList spelled) := by
  have hlow : ∀ c ∈ s.toList, c.toNat < 128 := fun c hc =>
    (Binary64.toNat_of_isNumberChar (hs c hc)).2
  unfold Text.encode at h
  rw [Text.flatMap_utf8EncodeChar hlow] at h
  obtain ⟨spelled, ⟨lost, hlost⟩, rfl⟩ := List.prefix_map_iff.1 h
  refine ⟨spelled, lost, hlost.symm, ?_⟩
  rw [Text.encode_ofList, Text.flatMap_utf8EncodeChar]
  exact fun c hc => hlow c (hlost ▸ List.mem_append_left lost hc)

/-- Fields of number characters are read as they stand. -/
lemma of_spells_numbers {first : String} {raws : List String}
    (hnumbers : ∀ s ∈ first :: raws, ∀ c ∈ s.toList, Binary64.isNumberChar c = true)
    (h : Table.Spells columns ((first :: raws).map Text.encode) read) :
    size? first = some read.size ∧ raws.map Binary64.ofText? = read.values.map some := by
  have htrim : ((first :: raws).map Text.encode).map Text.trimBytes =
      (first :: raws).map Text.encode := by
    rw [List.map_map]
    exact List.map_congr_left fun s hs => trimBytes_number (hnumbers s hs)
  have htexts : Table.texts 0 ((first :: raws).map Text.encode) = .ok (first :: raws) :=
    texts_encode 0 fun s hs => trimmed_number (hnumbers s hs)
  obtain ⟨first', raws', htexts', hsize, hvalues⟩ := h.texts
  rw [htrim, htexts] at htexts'
  obtain ⟨rfl, rfl⟩ := List.cons.inj (Except.ok.inj htexts')
  exact ⟨hsize, hvalues⟩

/-- A cut row that still has a field for every column lacks at most a part of its last value. -/
lemma exists_last_of_cut (hne : columns ≠ []) (hwidth : row.values.length = columns.length)
    (hcut : Csv.Cut (row.fields.map Text.encode) cut) (hlength : cut.length = columns.length + 1) :
    ∃ values last spelled lost, row.values = values ++ [last] ∧
      last.text.toList = spelled ++ lost ∧
      cut = (toString row.size :: (values.map Binary64.text ++ [String.ofList spelled])).map
        Text.encode := by
  obtain ⟨before, field, after, part, hline, hpart, rfl⟩ := hcut
  obtain ⟨values, last, hvalues⟩ : ∃ values last, row.values = values ++ [last] := by
    rcases List.eq_nil_or_concat row.values with hnil | hconcat
    · rw [hnil] at hwidth
      exact absurd (List.length_eq_zero_iff.1 hwidth.symm) hne
    · simpa using hconcat
  -- the cut row has as many fields as the row, so its last field is the one that is cut
  obtain rfl : after = [] := by
    have hsame := congrArg List.length hline
    simp only [Row.fields, List.map_cons, List.map_map, List.length_cons, List.length_map,
      List.length_append, hwidth, List.length_nil] at hsame hlength
    exact List.length_eq_zero_iff.1 (by omega)
  have hfields : (toString row.size :: values.map Binary64.text).map Text.encode ++
      [Text.encode last.text] = before ++ [field] := by
    rw [← hline, Row.fields, hvalues]
    simp
  obtain ⟨rfl, hfield⟩ := List.append_inj' hfields rfl
  obtain rfl : Text.encode last.text = field := by simpa using hfield
  obtain ⟨spelled, lost, hsplit, rfl⟩ :=
    exists_spelled (fun c hc => Binary64.isNumberChar_render hc) hpart
  exact ⟨values, last, spelled, lost, hvalues, hsplit, by simp⟩

/-- What is read of such a row is the row itself, but for the last value. -/
lemma of_spells_cut {values : List Binary64} {last : Binary64} {spelled lost : List Char}
    (hvalues : row.values = values ++ [last]) (hsplit : last.text.toList = spelled ++ lost)
    (h : Table.Spells columns
      ((toString row.size :: (values.map Binary64.text ++ [String.ofList spelled])).map Text.encode)
      read) :
    ∃ x, Binary64.ofText? (String.ofList spelled) = some x ∧
      read = ⟨row.size, values.map Binary64.canonical ++ [x]⟩ := by
  have hnumbers : ∀ s ∈ toString row.size :: (values.map Binary64.text ++ [String.ofList spelled]),
      ∀ c ∈ s.toList, Binary64.isNumberChar c = true := by
    intro s hs c hc
    have hrow : s ∈ row.fields ∨ s = String.ofList spelled := by
      simp only [Row.fields, hvalues, List.map_append, List.mem_cons, List.mem_append,
        List.not_mem_nil, or_false] at hs ⊢
      tauto
    rcases hrow with hrow | rfl
    · exact isNumberChar_fields hrow c hc
    · have hmem : c ∈ last.text.toList := by
        rw [hsplit]
        exact List.mem_append_left lost (by simpa using hc)
      exact Binary64.isNumberChar_render hmem
  obtain ⟨hsize, hmap⟩ := of_spells_numbers hnumbers h
  rw [List.map_append, List.map_map] at hmap
  obtain ⟨xs, ys, hread, hxs, hys⟩ := List.map_eq_append_iff.1 hmap.symm
  obtain rfl : xs = values.map Binary64.canonical := by
    refine List.map_injective_iff.2 (fun _ _ => Option.some.inj) ?_
    rw [hxs, List.map_map]
    exact List.map_congr_left fun x _ => Binary64.ofText?_render _ x
  obtain ⟨x, rfl, hx⟩ : ∃ x, ys = [x] ∧ some x = Binary64.ofText? (String.ofList spelled) := by
    simpa [List.map_eq_cons_iff] using hys
  refine ⟨x, hx.symm, ?_⟩
  obtain ⟨size, found⟩ := read
  obtain rfl : row.size = size := Option.some.inj ((size?_toString row.size).symm.trans hsize)
  exact congrArg (Row.mk row.size) hread

end Rows

namespace Store

/-! ### Files cut off -/

section Torn

variable {columns : List String} {rows : List Row} {torn : Bytes} {table : Table}

lemma quote_not_mem_contents (hplain : ∀ column ∈ columns, Plain column) (rows : List Row) :
    Csv.quote ∉ contents columns rows := by
  intro hmem
  rcases List.mem_append.1 hmem with hmem | hmem
  · rw [Csv.line_eq] at hmem
    rcases Csv.mem_lineOf hmem with h | h | ⟨field, hfield, h⟩
    · exact absurd h (by decide)
    · exact absurd h (by decide)
    · obtain ⟨s, hs, rfl⟩ := List.mem_map.1 hfield
      have hmarks : ∀ c ∈ s.toList, c ≠ '"' := by
        rcases List.mem_cons.1 hs with rfl | hs
        · simp [Metric.sizeColumn]
        · exact fun c hc => ((hplain s hs).marks c hc).2.1
      obtain ⟨c, hc, hcode⟩ := (Text.mem_encode (by decide)).1 h
      exact hmarks c hc (Char.toNat_inj.1 hcode)
  · exact quote_not_mem_rowLines rows hmem

lemma fieldsOf_text {lines : List (List Bytes)} (hlines : ∀ line ∈ lines, Csv.Regular line)
    (hhead : (Csv.text lines).head? ≠ some 0xEF) : Csv.fieldsOf (Csv.text lines) = lines := by
  rw [Csv.fieldsOf_eq, Csv.unmarked_of_head? hhead]
  exact Csv.recordsFrom_text hlines

/-- A file that was cut off still begins with the column of the sizes. -/
lemma head?_torn (htorn : torn <+: contents columns rows) : torn.head? ≠ some 0xEF := by
  obtain ⟨tail, htail⟩ := exists_line_header columns
  obtain ⟨lost, hlost⟩ := htorn
  unfold contents at hlost
  rw [htail] at hlost
  rcases torn with _ | ⟨b, bs⟩
  · simp
  · obtain rfl : b = 0x73 := (List.cons.inj hlost).1
    simp

lemma not_openQuote_torn (hplain : ∀ column ∈ columns, Plain column)
    (htorn : torn <+: contents columns rows) : ¬Csv.OpenQuote torn := by
  unfold Csv.OpenQuote
  rw [Csv.unmarked_of_head? (head?_torn htorn)]
  refine Csv.standing_ne_quoted (by simp) fun hmem => ?_
  exact quote_not_mem_contents hplain rows (htorn.subset hmem)

def fileLines (columns : List String) (rows : List Row) : List (List Bytes) :=
  (Metric.sizeColumn :: columns).map Text.encode :: rows.map fun row => row.fields.map Text.encode

lemma regular_fileLines (hplain : ∀ column ∈ columns, Plain column) :
    ∀ line ∈ fileLines columns rows, Csv.Regular line := by
  intro line hline
  rcases List.mem_cons.1 hline with rfl | hline
  · exact regular_header fun column hcolumn => (hplain column hcolumn).legible
  · obtain ⟨row, -, rfl⟩ := List.mem_map.1 hline
    exact regular_row row

/-- A file that was cut off is read as its whole lines and the next one as far as it goes. -/
lemma forms_torn (hplain : ∀ column ∈ columns, Plain column)
    (htorn : torn <+: contents columns rows) (hne : torn ≠ [])
    (hread : Table.ofBytes torn = .ok table) :
    ∃ done rest, fileLines columns rows = done ++ rest ∧ (table.Forms done ∨
      ∃ line ∈ rest.head?, ∃ cut, Csv.Cut line cut ∧ torn ++ [0x0A] = Csv.text (done ++ [cut]) ∧
        table.Forms (done ++ [cut])) := by
  -- the line feed that the store adds leaves the table as it is
  have hforms : table.Forms (Csv.fieldsOf (terminated torn)) := by
    have happend := fieldsOf_terminated_append (not_openQuote_torn hplain htorn) []
    rw [List.append_nil, show Csv.fieldsFrom .between {} [] = [] from rfl, List.append_nil] at happend
    rw [happend]
    exact Table.ofBytes_eq_ok_iff.1 hread
  have hlines : ∀ line ∈ fileLines columns rows, Csv.Regular line := regular_fileLines hplain
  have hhead := head?_torn htorn
  rw [contents_eq_text] at htorn
  obtain ⟨done, rest, hsplit, htext | ⟨line, hline, cut, hcut, hregular, htext, hlast⟩⟩ :=
    Csv.torn_text hlines htorn
  · -- the cut falls between two lines
    refine ⟨done, rest, hsplit, Or.inl ?_⟩
    have hdone : done ≠ [] := by
      rintro rfl
      exact hne htext
    have hterminated : terminated torn = torn := by
      unfold terminated
      rw [if_pos (htext ▸ Csv.getLast?_text hdone)]
    rw [hterminated, htext, fieldsOf_text] at hforms
    · exact hforms
    · exact fun line hline => hlines line (hsplit ▸ List.mem_append_left rest hline)
    · rwa [← htext]
  · -- the cut falls inside a line, which the line feed then ends
    refine ⟨done, rest, hsplit, Or.inr ⟨line, hline, cut, hcut, htext, ?_⟩⟩
    have hterminated : terminated torn = Csv.text (done ++ [cut]) := by
      unfold terminated
      rw [if_neg hlast, htext]
    rw [hterminated, fieldsOf_text] at hforms
    · exact hforms
    · intro l hl
      rcases List.mem_append.1 hl with hl | hl
      · exact hlines l (hsplit ▸ List.mem_append_left rest hl)
      · obtain rfl := List.mem_singleton.1 hl
        exact hregular
    · rw [← htext, List.head?_append_of_ne_nil _ hne]
      exact hhead

/-- Whole rows are read as they are. -/
lemma rows_of_spells (hcanonical : ∀ row ∈ rows, row.canonical = row)
    (hwidth : ∀ row ∈ rows, row.values.length = columns.length) {read : List Row}
    (h : List.Forall₂ (Table.Spells columns) (rows.map fun row => row.fields.map Text.encode) read) :
    read = rows := by
  have hrows := forall₂_spells hwidth
  rw [List.map_congr_left (f := Row.canonical) (g := id) hcanonical, List.map_id] at hrows
  have hunique : Relator.RightUnique (Table.Spells columns) := fun _ _ _ h h' => h.unique h'
  exact List.right_unique_forall₂' hunique h hrows

/-- A number that is read from the text of another one without the characters `lost` at its end. -/
def CutTo (last : Binary64) (lost : List Char) (x : Binary64) : Prop :=
  ∃ spelled, last.text.toList = spelled ++ lost ∧ spelled ≠ [] ∧ lost ≠ [] ∧
    Binary64.ofText? (String.ofList spelled) = some x

/-- What is read of a file that ends inside the last value of a row: the rows before it, and the
row itself with the number that is left of that value. -/
def EndsInValue (columns : List String) (rows : List Row) (torn : Bytes) (read : List Row) : Prop :=
  ∃ before row after values last lost x,
    rows = before ++ row :: after ∧ row.values = values ++ [last] ∧ CutTo last lost x ∧
    torn ++ Text.encode (String.ofList lost ++ "\n") = contents columns (before ++ [row]) ∧
    read = before ++ [⟨row.size, values ++ [x]⟩]

lemma canonical_values {row : Row} {values : List Binary64} {last : Binary64}
    (hcanonical : row.canonical = row) (hvalues : row.values = values ++ [last]) :
    values.map Binary64.canonical = values ∧ last.canonical = last := by
  have hmap : row.values.map Binary64.canonical = row.values := congrArg Row.values hcanonical
  rw [hvalues, List.map_append] at hmap
  obtain ⟨hinit, hlast⟩ := List.append_inj' hmap rfl
  exact ⟨hinit, by simpa using hlast⟩

lemma bytes_of_cut {before : List Row} {row : Row} {values : List Binary64} {last : Binary64}
    {spelled lost : List Char} (hvalues : row.values = values ++ [last])
    (hsplit : last.text.toList = spelled ++ lost)
    (htext : torn ++ [0x0A] = Csv.text (fileLines columns before ++
      [(toString row.size :: (values.map Binary64.text ++ [String.ofList spelled])).map
        Text.encode])) :
    torn ++ Text.encode (String.ofList lost ++ "\n") = contents columns (before ++ [row]) := by
  have htorn : torn = contents columns before ++ List.intercalate [Csv.comma]
      ((toString row.size :: (values.map Binary64.text ++ [String.ofList spelled])).map
        Text.encode) := by
    rw [fileLines, Csv.text, List.flatMap_append, List.flatMap_singleton, Csv.lineOf,
      ← List.append_assoc] at htext
    rw [List.append_cancel_right htext, contents_eq_text, Csv.text]
  have hlast : Text.encode last.text =
      Text.encode (String.ofList spelled) ++ Text.encode (String.ofList lost) := by
    simp [Text.encode, hsplit]
  have hline : rowLine row = List.intercalate [Csv.comma]
      ((toString row.size :: (values.map Binary64.text ++ [String.ofList spelled])).map
        Text.encode) ++ Text.encode (String.ofList lost) ++ [0x0A] := by
    rw [rowLine_eq, Csv.lineOf, Row.fields, hvalues, List.map_cons, List.map_cons, List.map_append,
      List.map_append, List.map_append, List.map_singleton, List.map_singleton, List.map_singleton,
      hlast, ← List.cons_append, Csv.intercalate_concat, List.cons_append]
  rw [contents_append, List.flatMap_singleton, hline, htorn, Text.encode_append]
  simp only [List.append_assoc]
  rfl

/-- A cut row that is read behind whole rows is whole itself, or it ends inside its last value. -/
lemma rows_of_cut {before after : List Row} {row : Row} {cut : List Bytes} {read : List Row}
    (hcolumns : columns ≠ []) (hcanonical : ∀ r ∈ before ++ row :: after, r.canonical = r)
    (hwidth : ∀ r ∈ before ++ row :: after, r.values.length = columns.length)
    (hcut : Csv.Cut (row.fields.map Text.encode) cut)
    (htext : torn ++ [0x0A] = Csv.text (fileLines columns before ++ [cut]))
    (hspells : List.Forall₂ (Table.Spells columns)
      ((before.map fun row => row.fields.map Text.encode) ++ [cut]) read) :
    read <+: before ++ row :: after ∨ EndsInValue columns (before ++ row :: after) torn read := by
  obtain ⟨hbefore, hrow⟩ := List.forall_mem_append.1 hcanonical
  obtain ⟨hbefore', hrow'⟩ := List.forall_mem_append.1 hwidth
  obtain ⟨whole, more, rfl, hwhole, hmore⟩ := Table.forall₂_append_left hspells
  obtain ⟨last_row, _, hlast_row, hnil, rfl⟩ := List.forall₂_cons_left_iff.1 hmore
  obtain rfl := List.forall₂_nil_left_iff.1 hnil
  -- the rows before the cut are whole, and only the last value of the cut row is in question
  obtain rfl := rows_of_spells hbefore hbefore' hwhole
  obtain ⟨values, last, spelled, lost, hvalues, hsplit, rfl⟩ :=
    exists_last_of_cut hcolumns (hrow' row (List.mem_cons_self ..)) hcut hlast_row.width
  obtain ⟨x, hx, rfl⟩ := of_spells_cut hvalues hsplit hlast_row
  obtain ⟨hinit, hlast⟩ := canonical_values (hrow row (List.mem_cons_self ..)) hvalues
  rw [hinit]
  by_cases hlost : lost = []
  · -- nothing is lost, and the value is read as it was written
    subst hlost
    have hsame : Binary64.ofText? (String.ofList spelled) = some last.canonical := by
      rw [List.append_nil] at hsplit
      rw [← hsplit, String.ofList_toList]
      exact Binary64.ofText?_render _ last
    obtain rfl : last = x := by
      rw [hlast, hx] at hsame
      exact (Option.some.inj hsame).symm
    refine Or.inl ⟨after, ?_⟩
    rw [← hvalues, List.append_assoc]
    rfl
  · -- what is left of the value is a number of its own
    have hspelled : spelled ≠ [] := by
      rintro rfl
      cases hx
    exact Or.inr ⟨_, row, after, values, last, lost, x, rfl, hvalues,
      ⟨spelled, hsplit, hspelled, hlost, hx⟩, bytes_of_cut hvalues hsplit htext, rfl⟩

/-- **What is read of a file that was cut off**: its first rows, or it ends inside a value. -/
theorem rows_of_torn (hplain : ∀ column ∈ columns, Plain column) (hcolumns : columns ≠ [])
    (hcanonical : ∀ row ∈ rows, row.canonical = row)
    (hwidth : ∀ row ∈ rows, row.values.length = columns.length)
    (htorn : torn <+: contents columns rows) (hne : torn ≠ [])
    (hread : Table.ofBytes torn = .ok table) (hheader : table.columns = columns) :
    table.rows <+: rows ∨ EndsInValue columns rows torn table.rows := by
  obtain ⟨done, rest, hlines, hforms⟩ := forms_torn hplain htorn hne hread
  rcases done with _ | ⟨header, done⟩
  · -- the header itself is cut
    have hnil : table.rows = [] := by
      rcases hforms with hforms | ⟨_, -, _, -, -, hforms⟩
      · have hlength := hforms.length
        simp at hlength
      · have hlength := hforms.length
        exact List.length_eq_zero_iff.1 (by simpa using hlength)
    rw [hnil]
    exact Or.inl List.nil_prefix
  · obtain ⟨rfl, hrows⟩ := List.cons.inj hlines
    obtain ⟨before, after, rfl, rfl, rfl⟩ := List.map_eq_append_iff.1 hrows
    rcases hforms with ⟨header, more, hmore, -, hspells⟩ |
      ⟨line, hline, cut, hcut, htext, header, more, hmore, -, hspells⟩
    · -- the file ends behind a whole row
      obtain ⟨rfl, rfl⟩ := List.cons.inj hmore
      rw [hheader] at hspells
      rw [rows_of_spells (List.forall_mem_append.1 hcanonical).1
        (List.forall_mem_append.1 hwidth).1 hspells]
      exact Or.inl (List.prefix_append ..)
    · -- the file ends inside a row
      obtain ⟨rfl, rfl⟩ := List.cons.inj hmore
      rw [hheader] at hspells
      rcases after with _ | ⟨row, after⟩
      · cases hline
      · obtain rfl : row.fields.map Text.encode = line := by simpa using hline
        exact rows_of_cut hcolumns hcanonical hwidth hcut htext hspells

end Torn

/-! ### Opening a file that was cut off -/

/-- What the path holds after a store was opened again: what it held before, if the store is
refused. -/
def reopened (store : Store) (spot : Spot) : Spot :=
  match store.resume spot with
  | .ok (bytes, _) => .content bytes
  | .error _ => spot

section Opening

variable {path : String} {metrics : List Metric} {rows : List Row} {spot : Spot}
  {bytes torn opened : Bytes} {sizes : List UInt64}

lemma width_of_appendAll (h : (forMetrics path metrics).appendAll opened rows = .ok bytes) :
    ∀ row ∈ rows, row.values.length = metrics.length := by
  unfold appendAll at h
  induction rows generalizing opened with
  | nil => simp
  | cons row rows ih =>
    by_cases hwidth : row.values.length = metrics.length
    · rw [List.foldlM_cons, append_content hwidth] at h
      exact List.forall_mem_cons.2 ⟨hwidth, ih h⟩
    · have hrefused : (forMetrics path metrics).append row (.content opened) =
          .error (.rowWidth metrics.length row.values.length) := by
        simp [append, forMetrics, Metric.header, hwidth]
      rw [List.foldlM_cons, hrefused] at h
      cases h

/-- What was written is the file of its rows, and each of them has a value for every metric. -/
lemma contents_of_written (h : (forMetrics path metrics).written spot rows = .ok bytes) :
    bytes = contents (metrics.map Metric.column) rows ∧
      ∀ row ∈ rows, row.values.length = metrics.length := by
  have hspot : ∀ fault, spot ≠ .blocked fault := by
    rintro fault rfl
    cases h
  have hwidth : ∀ row ∈ rows, row.values.length = metrics.length := by
    unfold written at h
    rw [fresh_eq hspot] at h
    exact width_of_appendAll h
  rw [written_eq hspot hwidth] at h
  exact ⟨(Except.ok.inj h).symm, hwidth⟩

/-- A finite value is read back bit for bit. -/
lemma canonical_of_finite {row : Row} (h : ∀ x ∈ row.values, x.isFinite = true) :
    row.canonical = row := by
  obtain ⟨size, values⟩ := row
  have hvalues : values.map Binary64.canonical = values := by
    rw [List.map_congr_left (g := id), List.map_id]
    intro x hx
    refine Binary64.canonical_of_isNaN_eq_false ?_
    have hfinite := h x hx
    simp only [Binary64.isFinite, Binary64.isNaN, decide_eq_true_eq, decide_eq_false_iff_not]
      at hfinite ⊢
    omega
  exact congrArg (Row.mk size) hvalues

lemma ne_nil_of_check (h : Metric.check metrics = .ok ()) : metrics.map Metric.column ≠ [] := by
  intro hnil
  rw [List.map_eq_nil_iff] at hnil
  rw [hnil] at h
  cases h

/-- A file that was cut off and is opened again holds a table, rows appended to it are read behind
its rows, and these are the first ones of the file, or the file ends inside a value. -/
lemma table_of_torn (hplain : ∀ m ∈ metrics, Plain m.column)
    (hcolumns : metrics.map Metric.column ≠ []) (hcanonical : ∀ row ∈ rows, row.canonical = row)
    (hwidth : ∀ row ∈ rows, row.values.length = metrics.length)
    (htorn : torn <+: contents (metrics.map Metric.column) rows)
    (hresume : (forMetrics path metrics).resume (.content torn) = .ok (opened, sizes)) :
    ∃ table : Table, sizes = table.sizes ∧
      (table.rows <+: rows ∨ EndsInValue (metrics.map Metric.column) rows torn table.rows) ∧
      ∀ more : List Row, (∀ row ∈ more, row.values.length = metrics.length) →
        Table.ofBytes (opened ++ more.flatMap rowLine) =
          .ok ⟨table.columns, table.rows ++ more.map Row.canonical⟩ := by
  have hplain' : ∀ column ∈ metrics.map Metric.column, Plain column := by simpa using hplain
  by_cases hne : torn = []
  · -- nothing is left, and the store begins with its header
    subst hne
    obtain ⟨rfl, rfl⟩ : Csv.line (Metric.sizeColumn :: metrics.map Metric.column) = opened ∧
        [] = sizes := by simpa [resume, forMetrics, Metric.header] using hresume
    refine ⟨⟨metrics.map Metric.column, []⟩, rfl, Or.inl List.nil_prefix, fun more hmore => ?_⟩
    exact ofBytes_contents (fun column h => (hplain' column h).legible) (by simpa using hmore)
  · -- what is left is a table under the header of the store
    obtain ⟨table, hread, hheader, rfl, rfl⟩ := (resume_content_iff hne).1 hresume
    refine ⟨table, rfl, ?_, fun more hmore => ?_⟩
    · exact rows_of_torn hplain' hcolumns hcanonical (by simpa using hwidth) htorn hne hread hheader
    · exact ofBytes_append_of_closed hread (not_openQuote_torn hplain' htorn)
        (by simpa [hheader] using hmore)

lemma EndsInValue.first_sizes {columns : List String} {read : List Row}
    (h : EndsInValue columns rows torn read) : read.map Row.size <+: rows.map Row.size := by
  obtain ⟨before, row, after, values, last, lost, x, rfl, -, -, -, rfl⟩ := h
  exact ⟨after.map Row.size, by simp⟩

/-- The sizes of a file that was cut off and is opened again are the first ones of the file, and
those of rows appended to it come behind them. -/
lemma sizes_of_torn (hplain : ∀ m ∈ metrics, Plain m.column)
    (hcolumns : metrics.map Metric.column ≠ [])
    (hwidth : ∀ row ∈ rows, row.values.length = metrics.length)
    (htorn : torn <+: contents (metrics.map Metric.column) rows)
    (hresume : (forMetrics path metrics).resume (.content torn) = .ok (opened, sizes)) :
    sizes <+: rows.map Row.size ∧
      ∀ more : List Row, (∀ row ∈ more, row.values.length = metrics.length) →
        ∃ table, Table.ofBytes (opened ++ more.flatMap rowLine) = .ok table ∧
          table.sizes = sizes ++ more.map Row.size := by
  have hcontents : contents (metrics.map Metric.column) (rows.map Row.canonical) =
      contents (metrics.map Metric.column) rows := by
    simp only [contents_eq_text, List.map_map, Function.comp_def, Row.fields_canonical]
  have hcanonical : ∀ row ∈ rows.map Row.canonical, row.canonical = row := by simp
  obtain ⟨table, rfl, hrows, happended⟩ := table_of_torn hplain hcolumns hcanonical
    (by simpa [Row.canonical] using hwidth) (hcontents ▸ htorn) hresume
  constructor
  · rw [← sizes_canonical rows]
    rcases hrows with hrows | hends
    · exact hrows.map Row.size
    · exact hends.first_sizes
  · intro more hmore
    refine ⟨_, happended more hmore, ?_⟩
    simp only [Table.sizes, List.map_append, sizes_canonical]

/-- **A file that was cut off**, at any byte, is refused and left as it is, or its store is opened
with the table of its first rows.  Only where the cut is inside the text of a row's last value, and
what is left of the text is a number, this row is read as well, with that number. -/
theorem resume_torn (path : String) (metrics : List Metric) (spot : Spot) (rows : List Row)
    (bytes torn : Bytes) (hcheck : Metric.check metrics = .ok ())
    (hplain : ∀ m ∈ metrics, Plain m.column)
    (hfinite : ∀ row ∈ rows, ∀ x ∈ row.values, x.isFinite = true)
    (hwritten : (forMetrics path metrics).written spot rows = .ok bytes) (htorn : torn <+: bytes) :
    ((∃ fault, (forMetrics path metrics).resume (.content torn) = .error fault) ∧
      (forMetrics path metrics).reopened (.content torn) = .content torn) ∨
    ∃ opened table, (forMetrics path metrics).resume (.content torn) = .ok (opened, table.sizes) ∧
      (forMetrics path metrics).reopened (.content torn) = .content opened ∧
      Table.ofBytes opened = .ok table ∧
      (table.rows <+: rows ∨ EndsInValue (metrics.map Metric.column) rows torn table.rows) := by
  obtain ⟨rfl, hwidth⟩ := contents_of_written hwritten
  have hcanonical : ∀ row ∈ rows, row.canonical = row :=
    fun row hrow => canonical_of_finite (hfinite row hrow)
  unfold reopened
  rcases hresume : (forMetrics path metrics).resume (.content torn) with fault | ⟨opened, sizes⟩
  · exact Or.inl ⟨⟨fault, rfl⟩, rfl⟩
  · obtain ⟨table, rfl, hrows, happended⟩ := table_of_torn hplain (ne_nil_of_check hcheck)
      hcanonical hwidth htorn hresume
    have hread := happended [] (by simp)
    simp only [List.flatMap_nil, List.map_nil, List.append_nil] at hread
    exact Or.inr ⟨opened, table, rfl, rfl, hread, hrows⟩

def halfRow : Row := ⟨8, [Binary64.ofNat 25 / Binary64.ofNat 2]⟩

lemma written_halfRow : (forMetrics "sweep.csv" [⟨"ns", "mean"⟩]).written .missing [halfRow] =
    .ok (contents ["ns"] [halfRow]) := written_eq (by simp) (by simp [halfRow])

lemma torn_halfRow : Text.encode "size,ns\n8,12" <+: contents ["ns"] [halfRow] :=
  ⟨Text.encode ".5\n", by decide +kernel⟩

lemma resume_halfRow : (forMetrics "sweep.csv" [⟨"ns", "mean"⟩]).resume
    (.content (Text.encode "size,ns\n8,12")) = .ok (Text.encode "size,ns\n8,12\n", [8]) := by
  decide +kernel

lemma ofBytes_halfRow : Table.ofBytes (Text.encode "size,ns\n8,12\n") =
    .ok ⟨["ns"], [⟨8, [Binary64.ofNat 12]⟩]⟩ := by
  decide +kernel

lemma not_prefix_halfRow : ¬[(⟨8, [Binary64.ofNat 12]⟩ : Row)] <+: [halfRow] := by decide +kernel

/-- A file with a row of twelve and a half that was cut off behind the twelve: its store is opened,
and the twelve is read, which is not what was written. -/
theorem resume_torn_twelve :
    ∃ opened table, (forMetrics "sweep.csv" [⟨"ns", "mean"⟩]).resume
        (.content (Text.encode "size,ns\n8,12")) = .ok (opened, table.sizes) ∧
      (forMetrics "sweep.csv" [⟨"ns", "mean"⟩]).reopened
        (.content (Text.encode "size,ns\n8,12")) = .content opened ∧
      Table.ofBytes opened = .ok table ∧ table.rows = [⟨8, [Binary64.ofNat 12]⟩] ∧
      ¬table.rows <+: [halfRow] ∧
      EndsInValue ["ns"] [halfRow] (Text.encode "size,ns\n8,12") table.rows := by
  rcases resume_torn "sweep.csv" [⟨"ns", "mean"⟩] .missing [halfRow] _ _ (by decide) (by decide)
    (by decide +kernel) written_halfRow torn_halfRow with
    ⟨⟨fault, hfault⟩, -⟩ | ⟨opened, table, hok, hreopened, hread, hrows⟩
  · rw [resume_halfRow] at hfault
    cases hfault
  · obtain rfl : Text.encode "size,ns\n8,12\n" = opened :=
      (Prod.mk.inj (Except.ok.inj (resume_halfRow.symm.trans hok))).1
    obtain rfl := Except.ok.inj (ofBytes_halfRow.symm.trans hread)
    exact ⟨_, _, hok, hreopened, hread, rfl, not_prefix_halfRow,
      hrows.resolve_left not_prefix_halfRow⟩

/-- A part of a value may be taken for the value. -/
theorem not_forall_resume_torn :
    ¬∀ (path : String) (metrics : List Metric) (spot : Spot) (rows : List Row) (bytes torn : Bytes),
      Metric.check metrics = .ok () → (∀ m ∈ metrics, Plain m.column) →
      (∀ row ∈ rows, ∀ x ∈ row.values, x.isFinite = true) →
      (forMetrics path metrics).written spot rows = .ok bytes → torn <+: bytes →
      ((∃ fault, (forMetrics path metrics).resume (.content torn) = .error fault) ∧
        (forMetrics path metrics).reopened (.content torn) = .content torn) ∨
      ∃ opened table, (forMetrics path metrics).resume (.content torn) = .ok (opened, table.sizes) ∧
        (forMetrics path metrics).reopened (.content torn) = .content opened ∧
        Table.ofBytes opened = .ok table ∧ table.rows <+: rows := by
  intro h
  rcases h "sweep.csv" [⟨"ns", "mean"⟩] .missing [halfRow] _ _ (by decide) (by decide)
    (by decide +kernel) written_halfRow torn_halfRow with
    ⟨⟨fault, hfault⟩, -⟩ | ⟨opened, table, hok, -, hread, hrows⟩
  · rw [resume_halfRow] at hfault
    cases hfault
  · obtain rfl : Text.encode "size,ns\n8,12\n" = opened :=
      (Prod.mk.inj (Except.ok.inj (resume_halfRow.symm.trans hok))).1
    obtain rfl := Except.ok.inj (ofBytes_halfRow.symm.trans hread)
    exact not_prefix_halfRow hrows

end Opening

end Store

end SizeSweep
