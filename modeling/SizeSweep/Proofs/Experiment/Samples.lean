import Mathlib.Tactic.Common
import SizeSweep.Aggregate

/-!
The samples of one size.  After any outputs are merged, a sample set has for each metric what the
outputs report for its label, one output after another; its row is the median of each metric, and
it has no row if some metric has no sample.
-/

namespace SizeSweep

/-! ### Medians -/

section Median

variable {samples : List Binary64}

lemma length_ascending (samples : List Binary64) : (ascending samples).length = samples.length :=
  List.length_mergeSort samples

lemma ascending_eq_self (h : samples.Pairwise fun x y => Binary64.totalLE x y = true) :
    ascending samples = samples :=
  List.mergeSort_of_pairwise h

/-- Only the empty list has no median. -/
lemma median?_eq_none_iff : median? samples = none ↔ samples = [] := by
  constructor
  · intro h
    by_contra hne
    have hpos : 0 < samples.length := List.length_pos_iff.2 hne
    have hlength := length_ascending samples
    unfold median? at h
    simp only at h
    split_ifs at h with hodd
    · rw [List.getElem?_eq_none_iff] at h
      omega
    · have hlow : (ascending samples)[(ascending samples).length / 2 - 1]? ≠ none := by
        rw [Ne, List.getElem?_eq_none_iff]
        omega
      have hhigh : (ascending samples)[(ascending samples).length / 2]? ≠ none := by
        rw [Ne, List.getElem?_eq_none_iff]
        omega
      split at h
      · cases h
      · rename_i hnone
        obtain ⟨low, hlow⟩ := Option.ne_none_iff_exists'.1 hlow
        obtain ⟨high, hhigh⟩ := Option.ne_none_iff_exists'.1 hhigh
        exact hnone low high hlow hhigh
  · rintro rfl
    simp [median?, ascending]

lemma mem_of_ascending {i : ℕ} {x : Binary64} (h : (ascending samples)[i]? = some x) :
    x ∈ samples :=
  List.mem_mergeSort.1 (List.mem_of_getElem? h)

/-- A median is the middle one of the samples in ascending order, or the sum of the halves of the
two middle ones. -/
lemma median?_cases {x : Binary64} (h : median? samples = some x) :
    (samples.length % 2 = 1 ∧ (ascending samples)[samples.length / 2]? = some x) ∨
      (samples.length % 2 = 0 ∧ ∃ low high,
        (ascending samples)[samples.length / 2 - 1]? = some low ∧
        (ascending samples)[samples.length / 2]? = some high ∧
        x = low / Binary64.ofNat 2 + high / Binary64.ofNat 2) := by
  unfold median? at h
  simp only [length_ascending] at h
  split_ifs at h with hodd
  · exact Or.inl ⟨hodd, h⟩
  · split at h
    · rename_i low high hlow hhigh
      exact Or.inr ⟨by omega, low, high, hlow, hhigh, (Option.some.inj h).symm⟩
    · cases h

/-- A median is a sample, or the sum of the halves of two of them. -/
lemma median?_eq_some {x : Binary64} (h : median? samples = some x) :
    x ∈ samples ∨ ∃ low ∈ samples, ∃ high ∈ samples,
      x = low / Binary64.ofNat 2 + high / Binary64.ofNat 2 := by
  rcases median?_cases h with ⟨-, hmiddle⟩ | ⟨-, low, high, hlow, hhigh, hx⟩
  · exact Or.inl (mem_of_ascending hmiddle)
  · exact Or.inr ⟨low, mem_of_ascending hlow, high, mem_of_ascending hhigh, hx⟩

end Median

/-! ### Merged outputs -/

namespace SampleSet

/-- What some outputs report for a metric, one output after another. -/
def samplesIn (m : Metric) (outputs : List String) : List Binary64 :=
  outputs.flatMap fun output => Reading.samplesOf (Text.lines output.toList) m.label

/-- The set of the samples of some outputs. -/
def collected (metrics : List Metric) (outputs : List String) : SampleSet :=
  ⟨metrics.map fun m => (m.column, samplesIn m outputs)⟩

/-- The set of the samples of some trials, merged one after another. -/
def ofTrials (metrics : List Metric) (trials : List (List (List Binary64))) : SampleSet :=
  trials.foldl merge (empty metrics)

section Collected

variable {metrics : List Metric} {outputs : List String} {output : String}

lemma collected_nil (metrics : List Metric) : collected metrics [] = empty metrics := rfl

lemma appendEach_map (f g : Metric → List Binary64) (metrics : List Metric) :
    appendEach (metrics.map fun m => (m.column, f m)) (metrics.map g) =
      metrics.map fun m => (m.column, f m ++ g m) := by
  induction metrics with
  | nil => rfl
  | cons m metrics ih =>
    simp only [List.map_cons, appendEach]
    rw [ih]

/-- One more output is merged behind the others. -/
lemma merge_collected (metrics : List Metric) (outputs : List String) (output : String) :
    (collected metrics outputs).merge (Reading.ofOutput metrics output).samples =
      collected metrics (outputs ++ [output]) := by
  unfold collected merge Reading.ofOutput
  simp only [appendEach_map]
  congr 1
  refine List.map_congr_left fun m _ => ?_
  simp [samplesIn]

lemma ofTrials_outputs (metrics : List Metric) (outputs : List String) :
    ofTrials metrics (outputs.map fun output => (Reading.ofOutput metrics output).samples) =
      collected metrics outputs := by
  have hbehind : ∀ before : List String,
      (outputs.map fun output => (Reading.ofOutput metrics output).samples).foldl merge
        (collected metrics before) = collected metrics (before ++ outputs) := by
    induction outputs with
    | nil => simp
    | cons output outputs ih =>
      intro before
      rw [List.map_cons, List.foldl_cons, merge_collected, ih, List.append_assoc,
        List.singleton_append]
  exact hbehind []

end Collected

/-! ### Rows -/

section Rows

variable {columns : List (String × List Binary64)} {values : List Binary64}

lemma value_of_median? {c : String × List Binary64} {x : Binary64} (h : median? c.2 = some x) :
    value c = .ok x := by
  obtain ⟨column, samples⟩ := c
  simp only [value]
  rw [h]

lemma value_nil (column : String) : value (column, []) = .error (.emptySample column) := by
  simp only [value]
  rw [median?_eq_none_iff.2 rfl]

lemma mapM_value_ok (h : values.map some = columns.map fun c => median? c.2) :
    columns.mapM value = .ok values := by
  induction columns generalizing values with
  | nil =>
    obtain rfl : values = [] := by simpa using h
    rfl
  | cons c columns ih =>
    rcases values with _ | ⟨x, values⟩
    · cases h
    · obtain ⟨hx, hrest⟩ := List.cons.inj h
      rw [List.mapM_cons, value_of_median? hx.symm, ih hrest]
      rfl

lemma mapM_value_error {before : List (String × List Binary64)} (hbefore : ∀ c ∈ before, c.2 ≠ [])
    (column : String) (after : List (String × List Binary64)) :
    (before ++ (column, []) :: after).mapM value = .error (.emptySample column) := by
  induction before with
  | nil =>
    rw [List.nil_append, List.mapM_cons, value_nil]
    rfl
  | cons c before ih =>
    obtain ⟨hc, hrest⟩ := List.forall_mem_cons.1 hbefore
    obtain ⟨x, hx⟩ := Option.ne_none_iff_exists'.1 (mt median?_eq_none_iff.1 hc)
    rw [List.cons_append, List.mapM_cons, value_of_median? hx, ih hrest]
    rfl

variable {metrics : List Metric} {outputs : List String} {size : UInt64}

/-- The row of the medians. -/
lemma aggregate_collected_ok
    (h : values.map some = metrics.map fun m => median? (samplesIn m outputs)) :
    (collected metrics outputs).aggregate size = .ok ⟨size, values⟩ := by
  have hcolumns : values.map some =
      (metrics.map fun m => (m.column, samplesIn m outputs)).map fun c => median? c.2 := by
    rw [h, List.map_map]
    rfl
  unfold aggregate collected
  rw [mapM_value_ok hcolumns]
  rfl

/-- The first metric without samples is the fault. -/
lemma aggregate_collected_error {passed rest : List Metric} {m : Metric}
    (hmetrics : metrics = passed ++ m :: rest) (hpassed : ∀ p ∈ passed, samplesIn p outputs ≠ [])
    (hm : samplesIn m outputs = []) :
    (collected metrics outputs).aggregate size = .error (.emptySample m.column) := by
  have hbefore : ∀ c ∈ passed.map fun p => (p.column, samplesIn p outputs), c.2 ≠ [] := by
    simpa using hpassed
  unfold aggregate collected
  rw [hmetrics, List.map_append, List.map_cons, hm, mapM_value_error hbefore]
  rfl

/-- Every column has a median, or there is a first one without samples. -/
lemma medians_or_empty (columns : List (String × List Binary64)) :
    (∃ values : List Binary64, values.map some = columns.map fun c => median? c.2) ∨
      ∃ passed column rest, columns = passed ++ (column, []) :: rest ∧ ∀ c ∈ passed, c.2 ≠ [] := by
  induction columns with
  | nil => exact Or.inl ⟨[], rfl⟩
  | cons c columns ih =>
    obtain ⟨column, samples⟩ := c
    by_cases hempty : samples = []
    · exact Or.inr ⟨[], column, columns, by rw [hempty]; rfl, by simp⟩
    · obtain ⟨x, hx⟩ := Option.ne_none_iff_exists'.1 (mt median?_eq_none_iff.1 hempty)
      rcases ih with ⟨values, hvalues⟩ | ⟨passed, first, rest, rfl, hpassed⟩
      · exact Or.inl ⟨x :: values, by rw [List.map_cons, List.map_cons, hvalues, hx]⟩
      · exact Or.inr ⟨(column, samples) :: passed, first, rest, rfl,
          List.forall_mem_cons.2 ⟨hempty, hpassed⟩⟩

/-- Every metric has a sample, or there is a first one without. -/
lemma medians_or_missing (metrics : List Metric) (outputs : List String) :
    (∃ values : List Binary64, values.map some = metrics.map fun m => median? (samplesIn m outputs)) ∨
      ∃ passed m rest, metrics = passed ++ m :: rest ∧ (∀ p ∈ passed, samplesIn p outputs ≠ []) ∧
        samplesIn m outputs = [] := by
  rcases medians_or_empty (metrics.map fun m => (m.column, samplesIn m outputs)) with
    ⟨values, hvalues⟩ | ⟨passed, column, rest, hcolumns, hpassed⟩
  · rw [List.map_map] at hvalues
    exact Or.inl ⟨values, hvalues⟩
  · obtain ⟨before, after, rfl, rfl, hafter⟩ := List.map_eq_append_iff.1 hcolumns
    obtain ⟨m, more, rfl, hm, -⟩ := List.map_eq_cons_iff.1 hafter
    exact Or.inr ⟨before, m, more, rfl, fun p hp => hpassed _ (List.mem_map_of_mem hp),
      (Prod.mk.inj hm).2⟩

end Rows

end SampleSet

end SizeSweep
