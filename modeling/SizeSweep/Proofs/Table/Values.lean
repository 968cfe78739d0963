import Mathlib.Tactic.Common
import SizeSweep.Table

/-!
Values of a table.  A name stands for the first column that has it, and the last row of a size
counts, so looking up a size and a name finds what stands in this row under this column, and
nothing else.
-/

namespace SizeSweep.Table

/-- The last row of a size has a value in the first column of a name. -/
def Records (table : Table) (size : UInt64) (column : String) (x : Binary64) : Prop :=
  ∃ before row after index, table.rows = before ++ row :: after ∧ row.size = size ∧
    (∀ later ∈ after, later.size ≠ size) ∧ table.columns[index]? = some column ∧
    column ∉ table.columns.take index ∧ row.values[index]? = some x

variable {table : Table} {rows before after : List Row} {row : Row} {size : UInt64}
  {column : String} {index : ℕ} {x : Binary64}

/-! ### Rows and columns -/

lemma find?_row_eq_some_iff :
    rows.reverse.find? (·.size = size) = some row ↔ ∃ before after,
      rows = before ++ row :: after ∧ row.size = size ∧ ∀ later ∈ after, later.size ≠ size := by
  rw [List.find?_eq_some_iff_append]
  constructor
  · rintro ⟨hsize, after, before, hrows, hafter⟩
    refine ⟨before.reverse, after.reverse, ?_, by simpa using hsize, by simpa using hafter⟩
    rw [List.reverse_eq_iff.1 hrows, List.reverse_append, List.reverse_cons, List.append_assoc]
    rfl
  · rintro ⟨before, after, rfl, hsize, hafter⟩
    refine ⟨by simpa using hsize, after.reverse, before.reverse, ?_, by simpa using hafter⟩
    rw [List.reverse_append, List.reverse_cons, List.append_assoc]
    rfl

lemma exists_last_row (hsize : size ∈ rows.map Row.size) :
    ∃ before row after, rows = before ++ row :: after ∧ row.size = size ∧
      ∀ later ∈ after, later.size ≠ size := by
  have hfound : (rows.reverse.find? (·.size = size)).isSome := by
    simpa [List.find?_isSome] using hsize
  obtain ⟨row, hrow⟩ := Option.isSome_iff_exists.1 hfound
  obtain ⟨before, after, hlast⟩ := find?_row_eq_some_iff.1 hrow
  exact ⟨before, row, after, hlast⟩

lemma columnIndex?_eq_some_iff :
    table.columnIndex? column = some index ↔
      table.columns[index]? = some column ∧ column ∉ table.columns.take index := by
  unfold columnIndex?
  rw [List.findIdx?_eq_some_iff_getElem, List.getElem?_eq_some_iff]
  constructor
  · rintro ⟨hindex, hname, hfirst⟩
    refine ⟨⟨hindex, by simpa using hname⟩, fun hmem => ?_⟩
    obtain ⟨j, hj, hother⟩ := List.mem_take_iff_getElem.1 hmem
    exact hfirst j (by omega) (by simpa using hother)
  · rintro ⟨⟨hindex, hname⟩, hfirst⟩
    refine ⟨hindex, by simpa using hname, fun j hj hother => hfirst ?_⟩
    exact List.mem_take_iff_getElem.2 ⟨j, by omega, by simpa using hother⟩

/-! ### Values -/

/-- **Looking up** finds exactly what is recorded. -/
theorem value?_eq_some_iff : table.value? size column = some x ↔ table.Records size column x := by
  unfold value?
  simp only [Option.bind_eq_some_iff, columnIndex?_eq_some_iff, find?_row_eq_some_iff]
  constructor
  · rintro ⟨index, ⟨hindex, hfirst⟩, row, ⟨before, after, hrows, hsize, hafter⟩, hx⟩
    exact ⟨before, row, after, index, hrows, hsize, hafter, hindex, hfirst, hx⟩
  · rintro ⟨before, row, after, index, hrows, hsize, hafter, hindex, hfirst, hx⟩
    exact ⟨index, ⟨hindex, hfirst⟩, row, ⟨before, after, hrows, hsize, hafter⟩, hx⟩

lemma isSome_columnIndex?_iff : (table.columnIndex? column).isSome ↔ column ∈ table.columns := by
  unfold columnIndex?
  simp

/-- A table whose rows are as wide as its header has a value for each of its sizes and columns. -/
lemma exists_records (hwidth : ∀ row ∈ table.rows, row.values.length = table.columns.length)
    (hsize : size ∈ table.sizes) (hcolumn : column ∈ table.columns) :
    ∃ x, table.Records size column x := by
  obtain ⟨before, row, after, hrows, hrow, hafter⟩ := exists_last_row hsize
  obtain ⟨index, hindex⟩ := Option.isSome_iff_exists.1 (isSome_columnIndex?_iff.2 hcolumn)
  obtain ⟨hname, hfirst⟩ := columnIndex?_eq_some_iff.1 hindex
  have hlt : index < row.values.length := by
    rw [hwidth row (by simp [hrows])]
    exact (List.getElem?_eq_some_iff.1 hname).1
  exact ⟨row.values[index], before, row, after, index, hrows, hrow, hafter, hname, hfirst,
    List.getElem?_eq_getElem hlt⟩

end SizeSweep.Table
