import Mathlib.Algebra.BigOperators.Group.List.Basic
import SizeSweep.Proofs.Experiment.Provenance
import SizeSweep.Proofs.Text.Lines

/-!
Outputs in parts.  What is collected from two outputs of whole lines is what is collected from
their concatenation, metric by metric, and no metric has an influence on what another one collects.
So the trials of a size give the same samples as one trial that prints all their outputs.
-/

namespace SizeSweep

namespace Reading

/-! ### Lines in parts -/

section Lines

variable {a b : String}

lemma samplesOf_append (before after : List (List Char)) (label : String) :
    samplesOf (before ++ after) label = samplesOf before label ++ samplesOf after label := by
  simp only [samplesOf, reports, List.filterMap_append]

lemma lines_toList_append (h : Text.WholeLines a.toList) (b : String) :
    Text.lines (a ++ b).toList = Text.lines a.toList ++ Text.lines b.toList := by
  rw [String.toList_append, Text.lines_append h]

lemma misreported_append (label : String) (h : Text.WholeLines a.toList) (b : String) :
    misreported label (a ++ b) = misreported label a + misreported label b := by
  rw [misreported, lines_toList_append h, List.countP_append]
  rfl

lemma samples_append (metrics : List Metric) (h : Text.WholeLines a.toList) (b : String) :
    (ofOutput metrics (a ++ b)).samples =
      List.zipWith (· ++ ·) (ofOutput metrics a).samples (ofOutput metrics b).samples := by
  simp only [ofOutput, lines_toList_append h, samplesOf_append, List.zipWith_map, List.zipWith_self]

lemma parseFailures_append (metrics : List Metric) (h : Text.WholeLines a.toList) (b : String) :
    (ofOutput metrics (a ++ b)).parseFailures =
      (ofOutput metrics a).parseFailures + (ofOutput metrics b).parseFailures := by
  simp only [parseFailures, length_warnings, misreported_append _ h, List.sum_map_add]

end Lines

/-! ### Metrics one by one -/

section Metrics

lemma samples_each (metrics : List Metric) (output : String) :
    (ofOutput metrics output).samples.map ([·]) =
      metrics.map fun m => (ofOutput [m] output).samples := by
  simp only [ofOutput, List.map_map, List.map_cons, List.map_nil]
  rfl

lemma parseFailures_each (metrics : List Metric) (output : String) :
    (ofOutput metrics output).parseFailures =
      (metrics.map fun m => (ofOutput [m] output).parseFailures).sum := by
  simp only [parseFailures, length_warnings, List.map_cons, List.map_nil, List.sum_singleton]

end Metrics

/-! ### Trials in a row -/

section Trials

/-- Outputs whose lines are whole, the last one apart, report what their concatenation reports. -/
lemma samplesIn_join (m : Metric) {outputs : List String}
    (h : ∀ output ∈ outputs.dropLast, Text.WholeLines output.toList) :
    SampleSet.samplesIn m [String.join outputs] = SampleSet.samplesIn m outputs := by
  induction outputs with
  | nil => rfl
  | cons output outputs ih =>
    rcases outputs with _ | ⟨next, outputs⟩
    · rw [String.join_cons, String.join_nil, String.append_empty]
    · rw [List.dropLast_cons_cons, List.forall_mem_cons] at h
      obtain ⟨hwhole, hrest⟩ := h
      have hjoin := ih hrest
      simp only [SampleSet.samplesIn, List.flatMap_cons, List.flatMap_nil,
        List.append_nil] at hjoin ⊢
      rw [String.join_cons, lines_toList_append hwhole, samplesOf_append, hjoin]

/-- The set of one trial has its samples, each list under the column of its metric. -/
lemma columns_collected_singleton (metrics : List Metric) (output : String) :
    (SampleSet.collected metrics [output]).columns =
      (metrics.map Metric.column).zip (ofOutput metrics output).samples := by
  simp only [SampleSet.collected, SampleSet.samplesIn, ofOutput, List.flatMap_cons,
    List.flatMap_nil, List.append_nil, List.zip_map']

/-- **Collecting commutes with concatenation.**  Behind an output of whole lines another one adds its
own samples and failures; a metric collects what it collects alone; and the trials of some outputs
merge to the set, and so to the row, of one trial that prints them all, which has for each metric
the samples of this trial. -/
theorem ofOutput_additive (metrics : List Metric) :
    (∀ a b : String, Text.WholeLines a.toList →
      (ofOutput metrics (a ++ b)).samples =
        List.zipWith (· ++ ·) (ofOutput metrics a).samples (ofOutput metrics b).samples ∧
      (ofOutput metrics (a ++ b)).parseFailures =
        (ofOutput metrics a).parseFailures + (ofOutput metrics b).parseFailures) ∧
    (∀ output : String,
      (ofOutput metrics output).samples.map ([·]) =
        metrics.map (fun m => (ofOutput [m] output).samples) ∧
      (ofOutput metrics output).parseFailures =
        (metrics.map fun m => (ofOutput [m] output).parseFailures).sum) ∧
    ∀ outputs : List String, (∀ output ∈ outputs.dropLast, Text.WholeLines output.toList) →
      let merged :=
        SampleSet.ofTrials metrics (outputs.map fun output => (ofOutput metrics output).samples)
      let single := SampleSet.ofTrials metrics [(ofOutput metrics (String.join outputs)).samples]
      merged = single ∧
      merged.columns =
        (metrics.map Metric.column).zip (ofOutput metrics (String.join outputs)).samples ∧
      ∀ size, merged.aggregate size = single.aggregate size := by
  refine ⟨fun a b ha => ⟨samples_append metrics ha b, parseFailures_append metrics ha b⟩,
    fun output => ⟨samples_each metrics output, parseFailures_each metrics output⟩,
    fun outputs houtputs => ?_⟩
  intro merged single
  have hsingle : single = SampleSet.collected metrics [String.join outputs] :=
    SampleSet.ofTrials_outputs metrics [String.join outputs]
  have hmerged : merged = SampleSet.collected metrics outputs :=
    SampleSet.ofTrials_outputs metrics outputs
  have hsame : merged = single := by
    rw [hmerged, hsingle, SampleSet.collected, SampleSet.collected]
    simp only [samplesIn_join _ houtputs]
  refine ⟨hsame, ?_, fun size => by rw [hsame]⟩
  rw [hsame, hsingle, columns_collected_singleton]

/-- A line with a carriage return, a fault and overlapping labels, as one output and as two. -/
theorem ofOutput_additive_two :
    let metrics : List Metric := [⟨"us", "mean"⟩, ⟨"ns", "mean a"⟩]
    let a := "mean a: 1\r\nmean b: 2\n"
    let b := "mean a: x\nmean a: 3"
    let merged :=
      SampleSet.ofTrials metrics ([a, b].map fun output => (ofOutput metrics output).samples)
    let single := SampleSet.ofTrials metrics [(ofOutput metrics (String.join [a, b])).samples]
    Text.WholeLines a.toList ∧
      (ofOutput metrics (a ++ b)).samples =
        [[.ofNat 1, .ofNat 2, .ofNat 3], [.ofNat 1, .ofNat 3]] ∧
      (ofOutput metrics (a ++ b)).parseFailures = 2 ∧
      (∀ output ∈ [a, b].dropLast, Text.WholeLines output.toList) ∧
      merged.columns = [("us", [.ofNat 1, .ofNat 2, .ofNat 3]), ("ns", [.ofNat 1, .ofNat 3])] ∧
      merged.aggregate 8 = single.aggregate 8 := by
  intro metrics a b merged single
  have hwhole : Text.WholeLines a.toList := by decide +kernel
  have houtputs : ∀ output ∈ [a, b].dropLast, Text.WholeLines output.toList :=
    List.forall_mem_singleton.2 hwhole
  obtain ⟨hconcat, -, htrials⟩ := ofOutput_additive metrics
  obtain ⟨hsamples, hfailures⟩ := hconcat a b hwhole
  obtain ⟨-, hcolumns, haggregate⟩ := htrials [a, b] houtputs
  refine ⟨hwhole, hsamples.trans ?_, hfailures.trans ?_, houtputs, hcolumns.trans ?_,
    haggregate 8⟩
  · decide +kernel
  · decide +kernel
  · decide +kernel

end Trials

end Reading

end SizeSweep
