import Mathlib.Data.List.Forall2
import SizeSweep.Proofs.Experiment.Samples

/-!
Rows whatever the order.  Only equal numbers tie in the total order, so the same samples in any
order have one ascending list and one median, the sample in the middle of this list or the sum of
the halves of the two samples there.  What a row holds depends on what was collected for its size,
and not on the order of the trials or of the samples of a trial.
-/

namespace SizeSweep

/-! ### The ascending order -/

lemma Binary64.rank_injective : Function.Injective Binary64.rank := by
  rintro ⟨negative, magnitude, hlt⟩ ⟨negative', magnitude', hlt'⟩ h
  cases negative <;> cases negative' <;> simp [rank] at h ⊢ <;> omega

section Order

variable {samples other : List Binary64}

lemma ascending_perm (samples : List Binary64) : (ascending samples).Perm samples :=
  List.mergeSort_perm ..

lemma pairwise_ascending (samples : List Binary64) :
    (ascending samples).Pairwise fun x y => x.rank ≤ y.rank := by
  have htrans : ∀ x y z : Binary64, x.totalLE y → y.totalLE z → x.totalLE z := by
    intro x y z hxy hyz
    simp only [Binary64.totalLE, decide_eq_true_eq] at hxy hyz ⊢
    omega
  have htotal : ∀ x y : Binary64, x.totalLE y || y.totalLE x := by
    intro x y
    simp only [Binary64.totalLE, Bool.or_eq_true, decide_eq_true_eq]
    omega
  exact (List.pairwise_mergeSort htrans htotal samples).imp fun h => of_decide_eq_true h

/-- The same samples have one ascending order. -/
lemma ascending_eq_of_perm (h : samples.Perm other) : ascending samples = ascending other :=
  List.Perm.eq_of_pairwise
    (fun _ _ _ _ hle hge => Binary64.rank_injective (Int.le_antisymm hle hge))
    (pairwise_ascending samples) (pairwise_ascending other)
    ((ascending_perm samples).trans (h.trans (ascending_perm other).symm))

/-- The same samples have one median. -/
lemma median?_eq_of_perm (h : samples.Perm other) : median? samples = median? other := by
  unfold median?
  rw [ascending_eq_of_perm h]

end Order

/-! ### Places in the order -/

/-- The `k`-th smallest of some samples, counted from one: fewer than `k` samples stand before it in
the total order, and at least `k` do not stand behind it. -/
structure IsSmallest (k : ℕ) (samples : List Binary64) (x : Binary64) : Prop where
  mem : x ∈ samples
  before : samples.countP (fun y => y.rank < x.rank) < k
  upTo : k ≤ samples.countP fun y => y.rank ≤ x.rank

/-- A median of some samples: for an odd count a sample with at most half of the count before it and
at most half behind it, and for an even count the sum of the halves of the two samples in the
middle. -/
inductive IsMedian (samples : List Binary64) : Binary64 → Prop
  | odd {v : Binary64} (hodd : samples.length % 2 = 1) (hmem : v ∈ samples)
      (hbefore : samples.countP (fun y => y.rank < v.rank) ≤ samples.length / 2)
      (hbehind : samples.countP (fun y => v.rank < y.rank) ≤ samples.length / 2) :
      IsMedian samples v
  | even {low high : Binary64} (heven : samples.length % 2 = 0)
      (hlow : IsSmallest (samples.length / 2) samples low)
      (hhigh : IsSmallest (samples.length / 2 + 1) samples high) :
      IsMedian samples (low / Binary64.ofNat 2 + high / Binary64.ofNat 2)

section Places

variable {samples front back : List Binary64} {x v : Binary64} {i k : ℕ}

lemma IsSmallest.of_perm {other : List Binary64} (h : IsSmallest k samples x)
    (hperm : samples.Perm other) : IsSmallest k other x where
  mem := hperm.mem_iff.1 h.mem
  before := hperm.countP_eq _ ▸ h.before
  upTo := hperm.countP_eq _ ▸ h.upTo

lemma isSmallest_middle (h : (front ++ x :: back).Pairwise fun x y => x.rank ≤ y.rank) :
    IsSmallest (front.length + 1) (front ++ x :: back) x := by
  obtain ⟨-, hback, hacross⟩ := List.pairwise_append.1 h
  have hfront : ∀ y ∈ front, y.rank ≤ x.rank := fun y hy => hacross y hy x (List.mem_cons_self ..)
  have hnone : (x :: back).countP (fun y => y.rank < x.rank) = 0 := by
    rw [List.countP_eq_zero]
    refine List.forall_mem_cons.2 ⟨by simp, fun y hy => ?_⟩
    simpa using (List.pairwise_cons.1 hback).1 y hy
  refine ⟨by simp, ?_, ?_⟩
  · rw [List.countP_append, hnone]
    exact Nat.lt_succ_of_le List.countP_le_length
  · rw [List.countP_append, List.countP_eq_length.2 (by simpa using hfront),
      List.countP_cons_of_pos (by simp)]
    omega

lemma isSmallest_of_ascending (h : (ascending samples)[i]? = some x) :
    IsSmallest (i + 1) samples x := by
  obtain ⟨hlt, rfl⟩ := List.getElem?_eq_some_iff.1 h
  have hsplit : (ascending samples).take i ++
      (ascending samples)[i] :: (ascending samples).drop (i + 1) = ascending samples := by
    rw [List.getElem_cons_drop, List.take_append_drop]
  have hsmallest := isSmallest_middle (hsplit.symm ▸ pairwise_ascending samples)
  rw [hsplit, List.length_take_of_le (Nat.le_of_lt hlt)] at hsmallest
  exact hsmallest.of_perm (ascending_perm samples)

lemma IsSmallest.behind (h : IsSmallest k samples x) :
    samples.countP (fun y => x.rank < y.rank) + k ≤ samples.length := by
  have hcount := List.length_eq_countP_add_countP (fun y : Binary64 => y.rank ≤ x.rank)
    (l := samples)
  have hbehind : samples.countP (fun y => x.rank < y.rank) =
      samples.countP fun y => ¬decide (y.rank ≤ x.rank) = true := by
    refine List.countP_congr fun y _ => ?_
    simp
  have hupTo := h.upTo
  omega

lemma isMedian_of_median? (h : median? samples = some v) : IsMedian samples v := by
  rcases median?_cases h with ⟨hodd, hmiddle⟩ | ⟨heven, low, high, hlow, hhigh, rfl⟩
  · have hsmallest := isSmallest_of_ascending hmiddle
    have hbehind := hsmallest.behind
    exact .odd hodd hsmallest.mem (Nat.lt_succ_iff.1 hsmallest.before) (by omega)
  · have hhigh := isSmallest_of_ascending hhigh
    have hpos : 0 < samples.length := List.length_pos_of_mem hhigh.mem
    have hlow := isSmallest_of_ascending hlow
    rw [Nat.sub_add_cancel (by omega)] at hlow
    exact .even heven hlow hhigh

end Places

/-! ### Trials -/

namespace SampleSet

/-- What some trials gave for the metric in one place, one trial after another. -/
def gathered (trials : List (List (List Binary64))) (i : ℕ) : List Binary64 :=
  trials.flatMap fun trial => trial.getD i []

/-- The same trials in any order, with the samples of each metric of a trial in any order. -/
def Rearranged (trials other : List (List (List Binary64))) : Prop :=
  ∃ shuffled, trials.Perm shuffled ∧ List.Forall₂ (List.Forall₂ List.Perm) shuffled other

/-- What becomes of some trials: a row of the medians of what was gathered for each metric, or the
fault of the first metric for which nothing was gathered. -/
inductive Summary (metrics : List Metric) (trials : List (List (List Binary64))) (size : UInt64) :
    Except AggregateFault Row → Prop
  | row {values : List Binary64} (hlength : values.length = metrics.length)
      (hmedians : ∀ i v, values[i]? = some v → IsMedian (gathered trials i) v) :
      Summary metrics trials size (.ok ⟨size, values⟩)
  | empty {i : ℕ} {m : Metric} (hm : metrics[i]? = some m) (hempty : gathered trials i = [])
      (hbefore : ∀ j < i, gathered trials j ≠ []) :
      Summary metrics trials size (.error (.emptySample m.column))

section Trials

variable {metrics : List Metric} {trials other : List (List (List Binary64))}

lemma appendEach_getElem? (columns : List (String × List Binary64)) (trial : List (List Binary64))
    (i : ℕ) : (appendEach columns trial)[i]? =
      columns[i]?.map fun c => (c.1, c.2 ++ trial.getD i []) := by
  induction columns generalizing trial i with
  | nil => simp [appendEach]
  | cons c columns ih =>
    cases trial with
    | nil => simp [appendEach]
    | cons samples trial =>
      cases i with
      | zero => rfl
      | succ i => exact ih trial i

/-- After some trials every metric has what was gathered for it. -/
lemma columns_getElem? (metrics : List Metric) (trials : List (List (List Binary64))) (i : ℕ) :
    (ofTrials metrics trials).columns[i]? =
      metrics[i]?.map fun m => (m.column, gathered trials i) := by
  have hmerged : ∀ set : SampleSet, (trials.foldl merge set).columns[i]? =
      set.columns[i]?.map fun c => (c.1, c.2 ++ gathered trials i) := by
    induction trials with
    | nil => simp [gathered]
    | cons trial trials ih =>
      intro set
      rw [List.foldl_cons, ih, merge, appendEach_getElem?, Option.map_map]
      simp [gathered, Function.comp_def]
  rw [ofTrials, hmerged, empty, List.getElem?_map, Option.map_map]
  rfl

lemma perm_getD {trial trial' : List (List Binary64)} (h : List.Forall₂ List.Perm trial trial')
    (i : ℕ) : (trial.getD i []).Perm (trial'.getD i []) := by
  induction h generalizing i with
  | nil => exact .refl _
  | cons hsamples _ ih =>
    cases i with
    | zero => exact hsamples
    | succ i => exact ih i

/-- Rearranged trials give every metric the same samples. -/
lemma Rearranged.gathered (h : Rearranged trials other) (i : ℕ) :
    (gathered trials i).Perm (gathered other i) := by
  obtain ⟨shuffled, hperm, hinside⟩ := h
  refine (hperm.flatMap_right _).trans ?_
  clear hperm
  induction hinside with
  | nil => exact .refl _
  | cons htrial _ ih => exact (perm_getD htrial i).append ih

lemma value_eq_of_perm {samples samples' : List Binary64} (h : samples.Perm samples')
    (column : String) : value (column, samples) = value (column, samples') := by
  simp only [value, median?_eq_of_perm h]

lemma aggregate_eq_of_perm
    (h : ∀ i, (SampleSet.gathered trials i).Perm (SampleSet.gathered other i)) (size : UInt64) :
    (ofTrials metrics trials).aggregate size = (ofTrials metrics other).aggregate size := by
  have hvalues : (ofTrials metrics trials).columns.map value =
      (ofTrials metrics other).columns.map value := by
    refine List.ext_getElem? fun i => ?_
    rw [List.getElem?_map, List.getElem?_map, columns_getElem?, columns_getElem?, Option.map_map,
      Option.map_map]
    refine Option.map_congr fun m _ => ?_
    exact value_eq_of_perm (h i) m.column
  have hmapM : ∀ set : SampleSet, set.columns.mapM value = (set.columns.map value).mapM id := by
    intro set
    rw [List.mapM_map]
    rfl
  rw [aggregate, aggregate, hmapM, hmapM, hvalues]

lemma length_columns (metrics : List Metric) (trials : List (List (List Binary64))) :
    (ofTrials metrics trials).columns.length = metrics.length := by
  have hcolumns : (ofTrials metrics trials).columns.map Prod.fst = metrics.map Metric.column := by
    refine List.ext_getElem? fun i => ?_
    rw [List.getElem?_map, columns_getElem?, Option.map_map, List.getElem?_map]
    rfl
  simpa using congrArg List.length hcolumns

lemma summary_aggregate (metrics : List Metric) (trials : List (List (List Binary64)))
    (size : UInt64) : Summary metrics trials size ((ofTrials metrics trials).aggregate size) := by
  have hmetric : ∀ {i c}, (ofTrials metrics trials).columns[i]? = some c →
      ∃ m, metrics[i]? = some m ∧ (m.column, gathered trials i) = c := fun {i} _ h =>
    Option.map_eq_some_iff.1 ((columns_getElem? metrics trials i).symm.trans h)
  have hlength := length_columns metrics trials
  unfold aggregate
  generalize (ofTrials metrics trials).columns = columns at hmetric hlength
  rcases medians_or_empty columns with ⟨values, hvalues⟩ | ⟨passed, column, rest, rfl, hpassed⟩
  · rw [mapM_value_ok hvalues]
    refine .row ?_ fun i v hv => ?_
    · simpa [hlength] using congrArg List.length hvalues
    · have hi : (columns.map fun c => median? c.2)[i]? = some (some v) := by
        rw [← hvalues, List.getElem?_map, hv]
        rfl
      rw [List.getElem?_map] at hi
      obtain ⟨c, hc, hmedian⟩ := Option.map_eq_some_iff.1 hi
      obtain ⟨m, -, rfl⟩ := hmetric hc
      exact isMedian_of_median? hmedian
  · rw [mapM_value_error hpassed]
    have hfirst : (passed ++ (column, []) :: rest)[passed.length]? = some (column, []) := by simp
    obtain ⟨m, hm, hpair⟩ := hmetric hfirst
    obtain ⟨rfl, hempty⟩ := Prod.mk.inj hpair
    refine .empty hm hempty fun j hj => ?_
    have hbefore : (passed ++ (m.column, []) :: rest)[j]? = some passed[j] := by
      rw [List.getElem?_append_left hj, List.getElem?_eq_getElem hj]
    obtain ⟨m', -, hpair⟩ := hmetric hbefore
    have hsamples := hpassed _ (List.getElem_mem hj)
    rwa [← hpair] at hsamples

/-- **A row depends on the samples and not on their order.**  Rearranged trials give the same row,
or the same metric without samples; and the values of a row are the medians of what was gathered
for each metric. -/
theorem aggregate_rearranged (metrics : List Metric) (trials other : List (List (List Binary64)))
    (size : UInt64) (h : Rearranged trials other) :
    (ofTrials metrics other).aggregate size = (ofTrials metrics trials).aggregate size ∧
      Summary metrics trials size ((ofTrials metrics trials).aggregate size) :=
  ⟨(aggregate_eq_of_perm h.gathered size).symm, summary_aggregate metrics trials size⟩

/-- Both zeros, an infinity and something that is no number. -/
theorem aggregate_rearranged_zeros :
    let metrics : List Metric := [⟨"ns", "mean"⟩, ⟨"us", "total"⟩]
    let trials := [[[Binary64.zero true], [.ofNat 1]],
      [[.zero false, .infinity false], [.ofNat 3, .nan]]]
    let other := [[[Binary64.infinity false, .zero false], [.nan, .ofNat 3]],
      [[.zero true], [.ofNat 1]]]
    Rearranged trials other ∧
      (ofTrials metrics other).aggregate 8 = .ok ⟨8, [.zero false, .ofNat 3]⟩ := by
  intro metrics trials other
  have hrearranged : Rearranged trials other :=
    ⟨_, .swap .., .cons (.cons (.swap ..) (.cons (.swap ..) .nil))
      (.cons (.cons (.refl _) (.cons (.refl _) .nil)) .nil)⟩
  refine ⟨hrearranged, (aggregate_rearranged metrics trials other 8 hrearranged).1.trans ?_⟩
  have hns : median? [.zero true, .zero false, .infinity false] = some (.zero false) := by
    unfold median?
    rw [ascending_eq_self (by decide)]
    rfl
  have hus : median? [.ofNat 1, .ofNat 3, .nan] = some (.ofNat 3) := by
    unfold median?
    rw [ascending_eq_self (by decide +kernel)]
    rfl
  have hcolumns : (ofTrials metrics trials).columns.mapM value = .ok [.zero false, .ofNat 3] :=
    mapM_value_ok (by
      show _ = [median? [.zero true, .zero false, .infinity false],
        median? [.ofNat 1, .ofNat 3, .nan]]
      rw [hns, hus]
      rfl)
  rw [aggregate, hcolumns]
  rfl

end Trials

end SampleSet

end SizeSweep
