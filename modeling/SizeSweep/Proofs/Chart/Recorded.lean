import Mathlib.Data.List.Forall2
import SizeSweep.Proofs.Plot
import SizeSweep.Proofs.Table.Faults
import SizeSweep.Proofs.Table.Values

/-!
Charts hold recorded values.  The rows of a table that was read are as wide as its header, so at a
size that all datasets record, each of them has a value in every column that all have: the one in
its last row of the size.  A plot draws such sizes and columns only, all of them but for the sizes
that a relative chart leaves out, and the stand-in for a value that is missing is in none of its
charts.
-/

namespace SizeSweep

/-- A table that a file was read as. -/
def Table.IsRead (table : Table) : Prop := ∃ content, Table.ofFile content = .ok table

lemma Table.IsRead.length_values {table : Table} (h : table.IsRead) :
    ∀ row ∈ table.rows, row.values.length = table.columns.length := by
  obtain ⟨fault | bytes, hread⟩ := h
  · cases hread
  · exact (Table.forms_iff_isTable.1 (Table.ofBytes_eq_ok_iff.1 hread)).length_values

lemma Binary64.isZero_iff (x : Binary64) : x.isZero = true ↔ x = .zero false ∨ x = .zero true := by
  obtain ⟨negative, magnitude, hlt⟩ := x
  cases negative <;> simp [Binary64.isZero, Binary64.zero]

namespace Chart

/-- A chart over some sizes, with a line for each dataset, under its label, and in the line a value
for each size and nothing else: the one that there is for the dataset and the size. -/
structure Draws (chart : Chart) (datasets : List Dataset) (sizes : List UInt64)
    (value? : Dataset → UInt64 → Option Binary64) : Prop where
  sizes_eq : chart.sizes = sizes
  lines : List.Forall₂ (fun d line => line.1 = d.label ∧ line.2.map some = sizes.map (value? d))
    datasets chart.lines

/-- The value that a dataset records in a column. -/
def recorded? (column : String) (dataset : Dataset) (size : UInt64) : Option Binary64 :=
  dataset.table.value? size column

/-- The value that a dataset records in a column, divided by that of the baseline at the same
size. -/
def ratio? (baseline : Dataset) (column : String) (dataset : Dataset) (size : UInt64) :
    Option Binary64 := do
  return (← recorded? column dataset size) / (← recorded? column baseline size)

/-- The sizes that a relative chart keeps: those at which the baseline records a value that is no
zero of either sign. -/
def keptSizes (baseline : Dataset) (column : String) (sizes : List UInt64) : List UInt64 :=
  sizes.filter fun size => (recorded? column baseline size).any
    fun y => y ≠ .zero false ∧ y ≠ .zero true

/-- What the charts of datasets hold is recorded in all of them. -/
structure Recorded (datasets : List Dataset) : Prop where
  ascending : (sharedSizes datasets).Pairwise (· < ·)
  shared : ∀ size, size ∈ sharedSizes datasets ↔ ∀ d ∈ datasets, size ∈ d.table.sizes
  unordered : ∀ others, others.Perm datasets → sharedSizes others = sharedSizes datasets
  values : ∀ column ∈ sharedColumns datasets, ∀ size ∈ sharedSizes datasets, ∀ d ∈ datasets,
    ∃ x, d.table.value? size column = some x ∧ d.table.Records size column x
  absolute : ∀ column ∈ sharedColumns datasets,
    (absolute datasets column (sharedSizes datasets)).Draws datasets (sharedSizes datasets)
      (recorded? column)
  relative : ∀ column ∈ sharedColumns datasets, ∀ baseline ∈ datasets,
    (relative datasets baseline column (sharedSizes datasets)).Draws datasets
      (keptSizes baseline column (sharedSizes datasets)) (ratio? baseline column)

/-! ### Shared sizes -/

section Sizes

variable {datasets others : List Dataset} {sizes : List UInt64} {size : UInt64} {column : String}

/-- Without repetitions ascending sizes ascend strictly. -/
lemma pairwise_lt_eraseDups (h : sizes.Pairwise (· ≤ ·)) : sizes.eraseDups.Pairwise (· < ·) := by
  induction hlength : sizes.length using Nat.strong_induction_on generalizing sizes with
  | _ n ih =>
    rcases sizes with _ | ⟨a, sizes⟩
    · simp
    · obtain ⟨hle, hsizes⟩ := List.pairwise_cons.1 h
      rw [List.eraseDups_cons, List.pairwise_cons]
      constructor
      · intro b hb
        obtain ⟨hb, hother⟩ := List.mem_filter.1 (List.mem_eraseDups.1 hb)
        have hne : b ≠ a := by simpa using hother
        exact UInt64.lt_of_le_of_ne (hle b hb) hne.symm
      · refine ih _ ?_ (hsizes.filter _) rfl
        have hshort := List.length_filter_le (fun b => !b == a) sizes
        rw [List.length_cons] at hlength
        omega

lemma pairwise_sharedSizes (datasets : List Dataset) : (sharedSizes datasets).Pairwise (· < ·) := by
  unfold sharedSizes
  rcases datasets with _ | ⟨first, rest⟩
  · exact List.Pairwise.nil
  · have htrans : ∀ a b c : UInt64, decide (a ≤ b) = true → decide (b ≤ c) = true →
        decide (a ≤ c) = true := by
      simp only [decide_eq_true_eq]
      exact fun a b c => UInt64.le_trans
    have htotal : ∀ a b : UInt64, (decide (a ≤ b) || decide (b ≤ a)) = true := by
      simpa using UInt64.le_total
    refine pairwise_lt_eraseDups ?_
    exact (List.pairwise_mergeSort htrans htotal _).imp fun hle => of_decide_eq_true hle

lemma mem_sharedSizes (hsome : datasets ≠ []) :
    size ∈ sharedSizes datasets ↔ ∀ d ∈ datasets, size ∈ d.table.sizes := by
  obtain ⟨first, rest, rfl⟩ := List.exists_cons_of_ne_nil hsome
  unfold sharedSizes
  simp only [List.mem_eraseDups, List.mem_mergeSort, List.mem_filter, List.all_eq_true,
    List.contains_iff_mem]
  exact and_iff_right_of_imp fun h => h first (List.mem_cons_self ..)

/-- One ascending list has just these sizes. -/
lemma sharedSizes_eq (hsome : datasets ≠ []) (hascending : sizes.Pairwise (· < ·))
    (hmem : ∀ size, size ∈ sizes ↔ ∀ d ∈ datasets, size ∈ d.table.sizes) :
    sharedSizes datasets = sizes := by
  have hshared := pairwise_sharedSizes datasets
  have hnodup := hascending.imp fun hlt => UInt64.ne_of_lt hlt
  have hnodup' := hshared.imp fun hlt => UInt64.ne_of_lt hlt
  refine List.Perm.eq_of_pairwise (fun _ _ _ _ hlt hgt => ?_) hshared hascending
    ((List.perm_ext_iff_of_nodup hnodup' hnodup).2 fun size => ?_)
  · exact absurd (UInt64.lt_trans hlt hgt) (UInt64.lt_irrefl _)
  · rw [mem_sharedSizes hsome, hmem]

lemma sharedSizes_of_perm (h : others.Perm datasets) :
    sharedSizes others = sharedSizes datasets := by
  by_cases hsome : datasets = []
  · subst hsome
    rw [h.eq_nil]
  · have hsome' : others ≠ [] := fun hnil => hsome (hnil ▸ h).nil_eq.symm
    refine sharedSizes_eq hsome' (pairwise_sharedSizes datasets) fun size => ?_
    rw [mem_sharedSizes hsome]
    exact ⟨fun hall d hd => hall d (h.mem_iff.1 hd), fun hall d hd => hall d (h.mem_iff.2 hd)⟩

lemma mem_columns_of_shared (hcolumn : column ∈ sharedColumns datasets) :
    ∀ d ∈ datasets, column ∈ d.table.columns := by
  unfold sharedColumns at hcolumn
  rcases datasets with _ | ⟨first, rest⟩
  · cases hcolumn
  · obtain ⟨-, hall⟩ := List.mem_filter.1 hcolumn
    exact fun d hd => Table.isSome_columnIndex?_iff.1 (List.all_eq_true.1 hall d hd)

end Sizes

/-! ### Charts of what is recorded -/

section Charts

variable {datasets : List Dataset} {baseline d : Dataset} {column : String}
  {sizes : List UInt64} {size : UInt64}

/-- At a shared size a table that was read has a value in every shared column. -/
lemma exists_recorded (hread : ∀ d ∈ datasets, d.table.IsRead)
    (hcolumn : column ∈ sharedColumns datasets) (hsize : size ∈ sharedSizes datasets)
    (hd : d ∈ datasets) :
    ∃ x, d.table.value? size column = some x ∧ d.table.Records size column x := by
  have hsized := (mem_sharedSizes (List.ne_nil_of_mem hd)).1 hsize d hd
  obtain ⟨x, hx⟩ := Table.exists_records (hread d hd).length_values hsized
    (mem_columns_of_shared hcolumn d hd)
  exact ⟨x, Table.value?_eq_some_iff.2 hx, hx⟩

lemma valueAt_of_recorded {x : Binary64} (h : recorded? column d size = some x) :
    valueAt d column size = x := by
  unfold valueAt
  rw [recorded?] at h
  rw [h, Option.getD_some]

lemma some_valueAt (h : (recorded? column d size).isSome) :
    some (valueAt d column size) = recorded? column d size := by
  obtain ⟨x, hx⟩ := Option.isSome_iff_exists.1 h
  rw [valueAt_of_recorded hx, hx]

lemma draws_absolute (h : ∀ d ∈ datasets, ∀ size ∈ sizes, (recorded? column d size).isSome) :
    (absolute datasets column sizes).Draws datasets sizes (recorded? column) := by
  refine ⟨rfl, ?_⟩
  unfold absolute
  rw [List.forall₂_map_right_iff, List.forall₂_same]
  intro d hd
  refine ⟨rfl, ?_⟩
  rw [List.map_map]
  exact List.map_congr_left fun size hsize => some_valueAt (h d hd size hsize)

lemma mem_divisors_iff {divisor : Binary64} :
    (size, divisor) ∈ divisors baseline column sizes ↔
      size ∈ sizes ∧ recorded? column baseline size = some divisor ∧ divisor.isZero = false := by
  unfold divisors divisor? recorded?
  simp only [List.mem_filterMap, Option.map_eq_some_iff, Option.filter_eq_some_iff, Prod.mk.injEq,
    Bool.not_eq_true']
  constructor
  · rintro ⟨_, hsize, _, hdivisor, rfl, rfl⟩
    exact ⟨hsize, hdivisor⟩
  · rintro ⟨hsize, hdivisor⟩
    exact ⟨_, hsize, _, hdivisor, rfl, rfl⟩

/-- Sizes with a zero of either sign are left out, and no others. -/
lemma isSome_divisor? (baseline : Dataset) (column : String) (size : UInt64) :
    (divisor? baseline column size).isSome = (recorded? column baseline size).any
      fun y => y ≠ .zero false ∧ y ≠ .zero true := by
  unfold divisor? recorded?
  rw [Option.isSome_filter]
  refine congrArg (Option.any · _) (funext fun y => ?_)
  rw [Bool.eq_iff_iff, Bool.not_eq_true', ← Bool.not_eq_true, Binary64.isZero_iff]
  simp

lemma map_fst_divisors (baseline : Dataset) (column : String) (sizes : List UInt64) :
    (divisors baseline column sizes).map Prod.fst = keptSizes baseline column sizes := by
  unfold divisors keptSizes
  simp only [← isSome_divisor?]
  induction sizes with
  | nil => rfl
  | cons size sizes ih =>
    rcases hdivisor : divisor? baseline column size with _ | divisor
    · simp [hdivisor, ih]
    · simp [hdivisor, ih]

lemma draws_relative (h : ∀ d ∈ datasets, ∀ size ∈ sizes, (recorded? column d size).isSome) :
    (relative datasets baseline column sizes).Draws datasets (keptSizes baseline column sizes)
      (ratio? baseline column) := by
  rw [← map_fst_divisors]
  refine ⟨rfl, ?_⟩
  unfold relative
  simp only
  rw [List.forall₂_map_right_iff, List.forall₂_same]
  intro d hd
  refine ⟨rfl, ?_⟩
  rw [List.map_map, List.map_map]
  refine List.map_congr_left fun entry hentry => ?_
  obtain ⟨hsize, hdivisor, -⟩ := mem_divisors_iff.1 hentry
  simp only [Function.comp_apply, ratio?, hdivisor, ← some_valueAt (h d hd _ hsize)]
  rfl

lemma recorded_of_isRead (hsome : datasets ≠ []) (hread : ∀ d ∈ datasets, d.table.IsRead) :
    Recorded datasets := by
  have hvalues : ∀ column ∈ sharedColumns datasets, ∀ d ∈ datasets,
      ∀ size ∈ sharedSizes datasets, (recorded? column d size).isSome := by
    intro column hcolumn d hd size hsize
    obtain ⟨x, hx, -⟩ := exists_recorded hread hcolumn hsize hd
    exact Option.isSome_iff_exists.2 ⟨x, hx⟩
  exact
    { ascending := pairwise_sharedSizes datasets
      shared := fun _ => mem_sharedSizes hsome
      unordered := fun _ => sharedSizes_of_perm
      values := fun _ hcolumn _ hsize _ hd => exists_recorded hread hcolumn hsize hd
      absolute := fun _ hcolumn => draws_absolute (hvalues _ hcolumn)
      relative := fun _ hcolumn _ _ => draws_relative (hvalues _ hcolumn) }

end Charts

end Chart

/-! ### Charts of a plot -/

namespace Plot

section Plots

variable {files : Files} {arguments : Arguments} {material : Material} {series : List Series}
  {loaded datasets : List Dataset}

lemma isRead_of_loadAfter (hloaded : ∀ d ∈ loaded, d.table.IsRead)
    (h : loadAfter files loaded series = .ok datasets) : ∀ d ∈ datasets, d.table.IsRead := by
  induction series generalizing loaded with
  | nil =>
    obtain rfl := Except.ok.inj h
    exact hloaded
  | cons s series ih =>
    rw [loadAfter] at h
    split_ifs at h
    rcases hread : Table.ofFile (files.read Files.home s.path) with fault | table
    · simp [hread] at h
    · simp only [hread] at h
      refine ih (List.forall_mem_append.2 ⟨hloaded, ?_⟩) h
      exact List.forall_mem_singleton.2 ⟨_, hread⟩

/-- What is known once everything has been read. -/
lemma gather_ok (h : gather files arguments = .ok material) :
    load files arguments.series = .ok material.datasets ∧
      material.datasets.find? (·.label = arguments.baseline) = some material.baseline ∧
      material.sizes = Chart.sharedSizes material.datasets ∧ material.sizes ≠ [] := by
  unfold gather at h
  rcases hload : load files arguments.series with fault | datasets
  · simp [hload, bind, Except.bind] at h
  · rcases hfind : datasets.find? (·.label = arguments.baseline) with _ | baseline
    · simp [hload, hfind, bind, Except.bind] at h
    · simp only [hload, hfind, bind, Except.bind] at h
      split at h
      · split_ifs at h with hempty
        obtain rfl := Except.ok.inj h
        exact ⟨rfl, hfind, rfl, by simpa using hempty⟩
      · split at h
        · cases h
        · split_ifs at h with hempty
          obtain rfl := Except.ok.inj h
          exact ⟨rfl, hfind, rfl, by simpa using hempty⟩

lemma isRead_of_gather (h : gather files arguments = .ok material) :
    ∀ d ∈ material.datasets, d.table.IsRead :=
  isRead_of_loadAfter (by simp) (gather_ok h).1

lemma baseline_mem (h : gather files arguments = .ok material) :
    material.baseline ∈ material.datasets :=
  List.mem_of_find?_eq_some (gather_ok h).2.1

/-- The charts of a plot are the two charts of each shared column, over the shared sizes. -/
lemma mem_charts_iff (h : gather files arguments = .ok material) {chart : Chart} :
    chart ∈ material.charts ↔ ∃ column ∈ Chart.sharedColumns material.datasets,
      chart = Chart.absolute material.datasets column (Chart.sharedSizes material.datasets) ∨
        chart = Chart.relative material.datasets material.baseline column
          (Chart.sharedSizes material.datasets) := by
  unfold Material.charts Chart.both
  rw [(gather_ok h).2.2.1, List.mem_flatMap]
  simp only [List.mem_cons, List.not_mem_nil, or_false]

/-- **Charts hold recorded values.**  Datasets that were read have for their shared sizes the
ascending list of the sizes that each of them records, and each records a value for such a size in
every shared column, the one in its last row of the size.  Their charts have a line for each
dataset.  In a line of an absolute chart stand the recorded values of all the shared sizes; in one
of a relative chart these values divided by those of the baseline, of the sizes where it records no
zero.  A plot draws both charts of each shared column of the datasets that it has read and no
others, and so no value that is not recorded. -/
theorem charts_hold_recorded :
    (∀ datasets : List Dataset, datasets ≠ [] → (∀ d ∈ datasets, d.table.IsRead) →
      Chart.Recorded datasets) ∧
    ∀ files arguments material, gather files arguments = .ok material →
      let sizes := Chart.sharedSizes material.datasets
      Chart.Recorded material.datasets ∧
      (∀ chart ∈ material.charts, ∃ column ∈ Chart.sharedColumns material.datasets,
        chart.Draws material.datasets sizes (Chart.recorded? column) ∨
          chart.Draws material.datasets (Chart.keptSizes material.baseline column sizes)
            (Chart.ratio? material.baseline column)) ∧
      ∀ column ∈ Chart.sharedColumns material.datasets,
        (∃ chart ∈ material.charts, chart.name = column ∧
          chart.Draws material.datasets sizes (Chart.recorded? column)) ∧
        ∃ chart ∈ material.charts, chart.name = column ++ "_relative" ∧
          chart.Draws material.datasets (Chart.keptSizes material.baseline column sizes)
            (Chart.ratio? material.baseline column) := by
  refine ⟨fun _ => Chart.recorded_of_isRead, fun files arguments material h => ?_⟩
  have hmem := baseline_mem h
  have hrecorded := Chart.recorded_of_isRead (List.ne_nil_of_mem hmem) (isRead_of_gather h)
  refine ⟨hrecorded, fun chart hchart => ?_, fun column hcolumn => ⟨?_, ?_⟩⟩
  · obtain ⟨column, hcolumn, rfl | rfl⟩ := (mem_charts_iff h).1 hchart
    · exact ⟨column, hcolumn, Or.inl (hrecorded.absolute column hcolumn)⟩
    · exact ⟨column, hcolumn, Or.inr (hrecorded.relative column hcolumn _ hmem)⟩
  · exact ⟨_, (mem_charts_iff h).2 ⟨column, hcolumn, Or.inl rfl⟩, rfl,
      hrecorded.absolute column hcolumn⟩
  · exact ⟨_, (mem_charts_iff h).2 ⟨column, hcolumn, Or.inr rfl⟩, rfl,
      hrecorded.relative column hcolumn _ hmem⟩

/-- Two datasets in different orders, one of them with two rows of a size and the other, the
baseline, with a zero; and a plot of one dataset. -/
theorem charts_hold_recorded_repeated :
    let a : Dataset := ⟨"a", ⟨["ns"], [⟨16, [.ofNat 1]⟩, ⟨8, [.ofNat 2]⟩, ⟨16, [.ofNat 3]⟩]⟩⟩
    let b : Dataset :=
      ⟨"b", ⟨["ops", "ns"], [⟨8, [.ofNat 4, .ofNat 5]⟩, ⟨16, [.ofNat 6, .zero false]⟩]⟩⟩
    let absolute := Chart.absolute [a, b] "ns" [8, 16]
    let relative := Chart.relative [a, b] b "ns" [8, 16]
    let files := oneFile "size,ns\n8,2\n"
    ([a, b] ≠ [] ∧ ∀ d ∈ [a, b], d.table.IsRead) ∧ Chart.Recorded [a, b] ∧
      Chart.sharedSizes [a, b] = [8, 16] ∧ a.table.Records 16 "ns" (.ofNat 3) ∧
      absolute.Draws [a, b] [8, 16] (Chart.recorded? "ns") ∧
      absolute.lines = [("a", [.ofNat 2, .ofNat 3]), ("b", [.ofNat 5, .zero false])] ∧
      relative.Draws [a, b] [8] (Chart.ratio? b "ns") ∧
      relative.lines = [("a", [.ofNat 2 / .ofNat 5]), ("b", [.ofNat 1])] ∧
      ∃ material, gather files oneSeries = .ok material ∧ Chart.Recorded material.datasets ∧
        (∃ chart ∈ material.charts, chart.name = "ns" ∧
          chart.Draws material.datasets [8] (Chart.recorded? "ns")) ∧
        ∃ chart ∈ material.charts, chart.name = "ns_relative" ∧
          chart.Draws material.datasets [8] (Chart.ratio? material.baseline "ns") := by
  intro a b absolute relative files
  have ha : a.table.IsRead := ⟨.ok (Text.encode "size,ns\n16,1\n8,2\n16,3\n"), by decide +kernel⟩
  have hb : b.table.IsRead := ⟨.ok (Text.encode "size,ops,ns\n8,4,5\n16,6,0\n"), by decide +kernel⟩
  have hread : ∀ d ∈ [a, b], d.table.IsRead := by simp [ha, hb]
  have hsome : [a, b] ≠ [] := List.cons_ne_nil _ _
  have hrecorded := charts_hold_recorded.1 [a, b] hsome hread
  have hsizes : Chart.sharedSizes [a, b] = [8, 16] := by
    refine Chart.sharedSizes_eq hsome (by decide) fun size => ?_
    rw [List.forall_mem_cons, List.forall_mem_singleton]
    simp only [a, b, Table.sizes, List.map_cons, List.map_nil, List.mem_cons, List.not_mem_nil,
      or_false]
    tauto
  have hkept : Chart.keptSizes b "ns" [8, 16] = [8] := by decide +kernel
  have habsolute := hrecorded.absolute "ns" (by decide +kernel)
  have hrelative := hrecorded.relative "ns" (by decide +kernel) b (by simp)
  rw [hsizes] at habsolute hrelative
  rw [hkept] at hrelative
  have hplot : (gather files oneSeries).toOption.any (fun m => decide
      ("ns" ∈ Chart.sharedColumns m.datasets ∧ Chart.sharedSizes m.datasets = [8] ∧
        Chart.keptSizes m.baseline "ns" [8] = [8])) = true := by decide +kernel
  obtain ⟨material, hgather, hmaterial⟩ := exists_ok_of_any hplot
  obtain ⟨hcolumn, hshared, hplotted⟩ := of_decide_eq_true hmaterial
  obtain ⟨hmaterial, -, hcharts⟩ := charts_hold_recorded.2 _ _ _ hgather
  have hns := hcharts "ns" hcolumn
  rw [hshared, hplotted] at hns
  exact ⟨⟨hsome, hread⟩, hrecorded, hsizes, Table.value?_eq_some_iff.1 (by decide +kernel),
    habsolute, by decide +kernel, hrelative, by decide +kernel, material, hgather, hmaterial,
    hns.1, hns.2⟩

end Plots

end Plot

end SizeSweep
