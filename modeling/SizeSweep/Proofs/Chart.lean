import Mathlib.Data.List.Lattice
import Mathlib.Data.List.Nodup
import Mathlib.Data.List.Pairwise
import Mathlib.Tactic.Common
import SizeSweep.Chart

/-!
Names of charts.  Every column gives two charts, one under its own name and one under the name with
`_relative` after it, so the names of charts meet only where a column has such a name itself.
-/

namespace SizeSweep.Chart

def namesOf (columns : List String) : List String :=
  columns.flatMap fun column => [column, column ++ "_relative"]

section Names

variable {datasets : List Dataset} {baseline : Dataset} {columns : List String} {name : String}

lemma map_name_both (datasets : List Dataset) (baseline : Dataset) (columns : List String)
    (sizes : List UInt64) :
    (both datasets baseline columns sizes).map Chart.name = namesOf columns := by
  unfold both namesOf
  rw [List.map_flatMap]
  rfl

lemma mem_namesOf :
    name ∈ namesOf columns ↔ ∃ column ∈ columns, name = column ∨ name = column ++ "_relative" := by
  unfold namesOf
  simp only [List.mem_flatMap, List.mem_cons, List.not_mem_nil, or_false]

lemma ne_append_relative (column : String) : column ≠ column ++ "_relative" := by
  intro h
  have hlength := congrArg String.length h
  rw [String.length_append, show "_relative".length = 9 from rfl] at hlength
  omega

/-- Columns that differ name different charts, unless one of them is named as the relative chart of
another. -/
lemma nodup_namesOf_iff (hcolumns : columns.Nodup) :
    (namesOf columns).Nodup ↔ ∀ column ∈ columns, column ++ "_relative" ∉ columns := by
  unfold namesOf
  rw [List.nodup_flatMap]
  constructor
  · rintro ⟨-, hpairs⟩ column hcolumn hrelative
    have : Std.Symm (Function.onFun List.Disjoint fun column => [column, column ++ "_relative"]) :=
      ⟨fun _ _ => List.Disjoint.symm⟩
    have hdisjoint := hpairs.forall hcolumn hrelative (ne_append_relative column)
    exact List.disjoint_left.1 hdisjoint (by simp : column ++ "_relative" ∈ _) (by simp)
  · intro hfree
    constructor
    · intro column _
      simpa using ne_append_relative column
    · refine hcolumns.pairwise_of_forall_ne fun a ha b hb hne => ?_
      intro name hname hother
      simp only [List.mem_cons, List.not_mem_nil, or_false] at hname hother
      -- two columns can only meet where one is named like the relative chart of the other
      rcases hname with rfl | rfl <;> rcases hother with hother | hother
      · exact hne hother
      · exact hfree b hb (hother ▸ ha)
      · exact hfree a ha (hother ▸ hb)
      · exact hne (String.append_left_inj _ |>.1 hother)

lemma nodup_sharedColumns (h : ∀ dataset ∈ datasets, dataset.table.columns.Nodup) :
    (sharedColumns datasets).Nodup := by
  unfold sharedColumns
  rcases datasets with _ | ⟨first, rest⟩
  · exact List.nodup_nil
  · exact (h first (by simp)).filter _

end Names

end SizeSweep.Chart
