import SizeSweep.Proofs.Experiment.Progress

/-!
Where the numbers come from.  The values of a row are the medians of what the outputs of its own
size report in the same run, output after output, and a complete run counts every line of every
output that names a metric without giving a sample.
-/

namespace SizeSweep

/-! ### Reports of one output -/

/-- The numbers that the lines of an output report for a label, in order. -/
def reported (label output : String) : List Binary64 :=
  (Text.lines output.toList).filterMap fun line =>
    match Sample.extract line label with
    | some (.ok x) => some x
    | _ => none

/-- The number of lines of an output whose report for a label is at fault. -/
def misreported (label output : String) : ℕ :=
  (Text.lines output.toList).countP fun line =>
    match Sample.extract line label with
    | some (.error _) => true
    | _ => false

section Reports

variable {label : String} {line : List Char} {x : Binary64}

lemma isFinite_of_extract (h : Sample.extract line label = some (.ok x)) : x.isFinite = true := by
  unfold Sample.extract at h
  split_ifs at h with hoccurs
  split at h
  · cases h
  · unfold Sample.value at h
    split at h
    · cases h
    · split_ifs at h with hfinite
      · simp only [Option.some.injEq, Except.ok.injEq] at h
        exact h ▸ hfinite
      · cases h

/-- Only finite numbers are reported. -/
lemma isFinite_of_reported {output : String} (h : x ∈ reported label output) :
    x.isFinite = true := by
  obtain ⟨line, -, hline⟩ := List.mem_filterMap.1 h
  split at hline
  · rename_i y hextract
    obtain rfl := Option.some.inj hline
    exact isFinite_of_extract hextract
  · cases hline

lemma samplesIn_eq (m : Metric) (outputs : List String) :
    SampleSet.samplesIn m outputs = outputs.flatMap (reported m.label) := by
  refine List.flatMap_congr fun output _ => ?_
  unfold Reading.samplesOf Reading.reports reported
  rw [List.filterMap_filterMap]
  refine List.filterMap_congr fun line _ => ?_
  rcases Sample.extract line m.label with _ | (fault | x) <;> rfl

lemma length_faultsOf (label output : String) :
    (Reading.faultsOf (Text.lines output.toList) label).length = misreported label output := by
  unfold Reading.faultsOf Reading.reports misreported
  rw [List.filterMap_filterMap, List.length_filterMap_eq_countP]
  refine List.countP_congr fun line _ => ?_
  rcases Sample.extract line label with _ | (fault | x) <;> simp

lemma length_warnings (metrics : List Metric) (output : String) :
    (Reading.ofOutput metrics output).warnings.length =
      (metrics.map fun m => misreported m.label output).sum := by
  simp only [Reading.ofOutput, List.length_flatMap, List.length_map, length_faultsOf]

end Reports

namespace Experiment

/-! ### Returned outputs -/

/-- What an executor returned in some calls, in order, with the size of the call, after the calls
made before. -/
def returned (respond : Responses) : List UInt64 → List UInt64 → List (UInt64 × String)
  | _, [] => []
  | past, size :: calls =>
    match respond past size with
    | .ok output => (size, output) :: returned respond (past ++ [size]) calls
    | .error _ => returned respond (past ++ [size]) calls

/-- The outputs that were returned for a size. -/
def outputsFor (size : UInt64) (trials : List (UInt64 × String)) : List String :=
  (trials.filter fun trial => trial.1 = size).map Prod.snd

section Returned

variable {respond : Responses} {past calls : List UInt64} {size : UInt64} {outputs : List String}

lemma returned_append (respond : Responses) (past a b : List UInt64) :
    returned respond past (a ++ b) = returned respond past a ++ returned respond (past ++ a) b := by
  induction a generalizing past with
  | nil => simp [returned]
  | cons size a ih =>
    rw [List.cons_append, returned, returned]
    rcases respond past size with fault | output
    · simp only [ih, List.append_assoc, List.cons_append, List.nil_append]
    · simp only [ih, List.append_assoc, List.cons_append, List.nil_append]

lemma mem_calls_of_returned {trial : UInt64 × String} (h : trial ∈ returned respond past calls) :
    trial.1 ∈ calls := by
  induction calls generalizing past with
  | nil => cases h
  | cons size calls ih =>
    rw [returned] at h
    rcases hanswer : respond past size with fault | output
    · simp only [hanswer] at h
      exact List.mem_cons_of_mem _ (ih h)
    · simp only [hanswer] at h
      rcases List.mem_cons.1 h with rfl | h
      · exact List.mem_cons_self ..
      · exact List.mem_cons_of_mem _ (ih h)

lemma returned_answered (h : Answered respond past size outputs) :
    returned respond past (List.replicate outputs.length size) = outputs.map (size, ·) := by
  induction outputs generalizing past with
  | nil => rfl
  | cons output outputs ih =>
    obtain ⟨hfirst, hrest⟩ := answered_cons.1 h
    rw [List.length_cons, List.replicate_succ, returned]
    simp only [hfirst]
    rw [ih hrest, List.map_cons]

lemma outputsFor_append (size : UInt64) (a b : List (UInt64 × String)) :
    outputsFor size (a ++ b) = outputsFor size a ++ outputsFor size b := by
  simp [outputsFor]

lemma outputsFor_self (size : UInt64) (outputs : List String) :
    outputsFor size (outputs.map (size, ·)) = outputs := by
  simp [outputsFor, List.filter_map, Function.comp_def]

/-- Calls for other sizes return nothing for a size. -/
lemma outputsFor_of_not_mem (h : size ∉ calls) :
    outputsFor size (returned respond past calls) = [] := by
  unfold outputsFor
  rw [List.map_eq_nil_iff, List.filter_eq_nil_iff]
  intro trial htrial hsize
  exact h (of_decide_eq_true hsize ▸ mem_calls_of_returned htrial)

end Returned

/-! ### Warnings of a run -/

/-- The calls of a part of a run are those that its desk saw, and its warnings are those of what
these calls returned. -/
structure Traced {α : Type} (metrics : List Metric) (respond : Responses) (desk : Desk)
    (part : Part Desk α) : Prop where
  calls : part.world.calls = desk.calls ++ part.journal.calls
  warnings : part.journal.warnings = (returned respond desk.calls part.journal.calls).flatMap
    fun trial => (Reading.ofOutput metrics trial.2).warnings

section Traced

variable {α β γ : Type} {e : Experiment} {respond : Responses}
  {build : Option (Except Build.Fault Unit)} {metrics : List Metric} {desk : Desk}

/-- One part after another. -/
lemma Traced.append {a : Part Desk α} {b : Part Desk β} (ha : Traced metrics respond desk a)
    (hb : Traced metrics respond a.world b) (result : γ) :
    Traced metrics respond desk ⟨result, a.journal ++ b.journal, b.world⟩ where
  calls := by
    rw [hb.calls, ha.calls, List.append_assoc]
    rfl
  warnings := by
    have hcalls : (a.journal ++ b.journal).calls = a.journal.calls ++ b.journal.calls := rfl
    have hwarnings : (a.journal ++ b.journal).warnings =
      a.journal.warnings ++ b.journal.warnings := rfl
    rw [hcalls, hwarnings, returned_append, List.flatMap_append, ha.warnings, hb.warnings,
      ha.calls]

lemma traced_of_no_calls {part : Part Desk α} (hcalls : part.journal.calls = [])
    (hwarnings : part.journal.warnings = []) (hworld : part.world.calls = desk.calls) :
    Traced metrics respond desk part where
  calls := by rw [hcalls, List.append_nil, hworld]
  warnings := by rw [hcalls, hwarnings]; rfl

lemma traced_trials (e : Experiment) (respond : Responses)
    (build : Option (Except Build.Fault Unit)) (size : UInt64) (done n : ℕ) (set : SampleSet)
    (desk : Desk) :
    Traced e.metrics respond desk
      (trials (Desk.bench respond build) e size done set n desk) := by
  induction n generalizing done set desk with
  | zero => exact traced_of_no_calls rfl rfl rfl
  | succ n ih =>
    rcases hanswer : respond desk.calls size with fault | output
    · rw [trials_succ_error build e desk done n set hanswer]
      exact ⟨rfl, by simp [returned, hanswer, enter]⟩
    · have hfirst : Traced e.metrics respond desk
          (⟨output, { enter (Desk.bench respond build) desk (.running size done) with
            calls := [size], warnings := (Reading.ofOutput e.metrics output).warnings },
            { desk with calls := desk.calls ++ [size] }⟩ : Part Desk String) :=
        ⟨rfl, by simp [returned, hanswer]⟩
      simp only [trials, Desk.bench, hanswer]
      exact hfirst.append (ih _ _ _) _

lemma traced_record (store : Store) (row : Row) (desk : Desk) :
    Traced metrics respond desk (record (Desk.bench respond build) store row desk) := by
  unfold record
  split
  · exact traced_of_no_calls rfl rfl rfl
  · exact traced_of_no_calls rfl rfl rfl

lemma traced_measure (e : Experiment) (respond : Responses)
    (build : Option (Except Build.Fault Unit)) (store : Store) (size : UInt64) (desk : Desk) :
    Traced e.metrics respond desk (measure (Desk.bench respond build) e store size desk) := by
  have htrials := traced_trials e respond build size 0 e.repetitions (SampleSet.empty e.metrics) desk
  unfold measure
  generalize trials (Desk.bench respond build) e size 0 (SampleSet.empty e.metrics)
    e.repetitions desk = tried at htrials
  have hentered : Traced e.metrics respond tried.world
      (⟨(), enter (Desk.bench respond build) tried.world (.aggregating size), tried.world⟩ :
        Part Desk Unit) := traced_of_no_calls rfl rfl rfl
  rcases hresult : tried.result with fault | set
  · simp only [hresult]
    exact ⟨htrials.calls, htrials.warnings⟩
  · rcases haggregate : set.aggregate size with fault | row
    · simp only [hresult, haggregate]
      exact htrials.append hentered _
    · simp only [hresult, haggregate]
      exact (htrials.append hentered ()).append (traced_record store row tried.world) _

lemma traced_measureAll (e : Experiment) (respond : Responses)
    (build : Option (Except Build.Fault Unit)) (store : Store) (skip sizes : List UInt64)
    (desk : Desk) :
    Traced e.metrics respond desk
      (measureAll (Desk.bench respond build) e store skip sizes desk) := by
  induction sizes generalizing desk with
  | nil => exact traced_of_no_calls rfl rfl rfl
  | cons size sizes ih =>
    rw [measureAll]
    split_ifs with hskip
    · exact ih desk
    · have hmeasured := traced_measure e respond build store size desk
      generalize measure (Desk.bench respond build) e store size desk = measured at hmeasured
      rcases hresult : measured.result with cause | _
      · simp only [hresult]
        exact ⟨hmeasured.calls, hmeasured.warnings⟩
      · simp only [hresult]
        exact hmeasured.append (ih measured.world) _

/-- A complete run counts the warnings of all that was returned. -/
lemma parseFailures_of_sweep {spot : Spot} {opened : Bytes} {skip : List UInt64} {report : Report}
    (hopen : e.openStore e.store spot = .ok (opened, skip))
    (hok : (sweep (Desk.bench respond build) e ⟨spot, []⟩).result = .ok report) :
    report.parseFailures =
      ((returned respond [] (sweep (Desk.bench respond build) e ⟨spot, []⟩).world.calls).map
        fun trial => (e.metrics.map fun m => misreported m.label trial.2).sum).sum := by
  have htraced := traced_measureAll e respond build e.store [] (e.todo skip) ⟨.content opened, []⟩
  rw [sweep_eq build hopen] at hok ⊢
  simp only at hok ⊢
  generalize measureAll (Desk.bench respond build) e e.store [] (e.todo skip)
    ⟨.content opened, []⟩ = measured at hok htraced ⊢
  obtain ⟨hcalls, hwarnings⟩ := htraced
  rcases hresult : measured.result with halt | persisted
  · simp [hresult] at hok
  · simp only [hresult, Except.ok.injEq] at hok ⊢
    subst hok
    rw [hcalls, List.nil_append, hwarnings, List.length_flatMap]
    simp only [length_warnings]

end Traced

/-! ### The rows of a run -/

section Rows

variable {e : Experiment} {respond : Responses} {past sizes : List UInt64} {rows : List Row}

/-- A row of the medians of what some outputs report. -/
def MedianOf (e : Experiment) (outputs : List String) (row : Row) : Prop :=
  outputs.length = e.repetitions ∧
    row.values.map some = e.metrics.map fun m => median? (outputs.flatMap (reported m.label))

lemma medianOf_of_series (h : Series e respond past sizes rows) (hnodup : sizes.Nodup) :
    ∀ row ∈ rows,
      MedianOf e (outputsFor row.size (returned respond past (e.allCalls sizes))) row := by
  induction sizes generalizing past rows with
  | nil =>
    rcases rows with _ | ⟨row, rows⟩
    · simp
    · exact h.elim
  | cons size sizes ih =>
    rcases rows with _ | ⟨first, rows⟩
    · exact h.elim
    · obtain ⟨⟨outputs, hlength, hanswered, rfl, hvalues⟩, hrows⟩ := h
      obtain ⟨hnew, hnodup⟩ := List.nodup_cons.1 hnodup
      have hsplit : returned respond past (e.allCalls (first.size :: sizes)) =
          returned respond past (List.replicate e.repetitions first.size) ++
            returned respond (past ++ List.replicate e.repetitions first.size)
              (e.allCalls sizes) := by
        unfold allCalls
        rw [List.flatMap_cons, returned_append]
      refine List.forall_mem_cons.2 ⟨?_, fun row hrow => ?_⟩
      · -- nothing behind the first size returns an output for it
        rw [hsplit, outputsFor_append, outputsFor_of_not_mem (mt mem_of_mem_allCalls hnew),
          List.append_nil, ← hlength, returned_answered hanswered, outputsFor_self]
        refine ⟨hlength, ?_⟩
        rw [hvalues]
        exact List.map_congr_left fun m _ => by rw [samplesIn_eq]
      · have hmem : row.size ∈ sizes := hrows.sizes_eq ▸ List.mem_map_of_mem hrow
        have hother : row.size ∉ List.replicate e.repetitions first.size :=
          fun h => hnew (List.eq_of_mem_replicate h ▸ hmem)
        rw [hsplit, outputsFor_append, outputsFor_of_not_mem hother, List.nil_append]
        exact ih hrows hnodup row hrow

/-- **Where the values of a row come from.**  A run that starts adds rows of the first sizes to be
measured, each in a line that says its size and its values.  Each value is the median of what all
the outputs that were returned for the size of the row report for its metric, and nothing else; and
once the run completes, its parse failures are the lines of all outputs, metric by metric, whose
report is at fault. -/
theorem medians_of_returned (e : Experiment) (respond : Responses)
    (build : Option (Except Build.Fault Unit)) (spot : Spot) :
    let part := run (Desk.bench respond build) e ⟨spot, []⟩
    let trials := returned respond [] part.world.calls
    Unstarted spot part ∨
    ∃ opened skip, ∃ rows : List Row, e.openStore e.store spot = .ok (opened, skip) ∧
      part.world.file = .content (opened ++ rows.flatMap Store.rowLine) ∧
      rows.map Row.size <+: e.todo skip ∧
      (∀ row ∈ rows, Store.IsLineOf row (Store.rowLine row)) ∧
      (∀ row ∈ rows, MedianOf e (outputsFor row.size trials) row) ∧
      ∀ report, part.result = .ok report →
        report.persisted = rows.map Row.size ∧
        report.parseFailures = (trials.map fun trial =>
          (e.metrics.map fun m => misreported m.label trial.2).sum).sum := by
  intro part trials
  rcases unstarted_or_opens e respond build spot with hunstarted | ⟨hbuild, opened, skip, hopen⟩
  · exact Or.inl hunstarted
  · obtain ⟨before, after, rows, hprogress⟩ := exists_progress respond hbuild hopen
    obtain ⟨last, hcalls, hlast⟩ := hprogress.calls
    have hmap : rows.map Row.size = before := hprogress.series.sizes_eq
    have hnodup : (before ++ after).Nodup :=
      hprogress.sizes ▸ Sweep.nodup_of_pairwise (pairwise_todo e skip)
    obtain ⟨hbefore, -, hdisjoint⟩ := List.nodup_append.1 hnodup
    refine Or.inr ⟨opened, skip, rows, hopen, hprogress.file, ?_, fun row _ => isLineOf_rowLine row,
      fun row hrow => ?_, fun report hok => ⟨?_, ?_⟩⟩
    · rw [hmap, hprogress.sizes]
      exact List.prefix_append ..
    · -- the calls behind the series are for a size that has no row
      have hmem : row.size ∈ before := hmap ▸ List.mem_map_of_mem hrow
      have hnew : row.size ∉ last := fun h => hdisjoint _ hmem _ (hlast _ h) rfl
      have htrials : trials = returned respond [] (e.allCalls before) ++
          returned respond ([] ++ e.allCalls before) last := by
        rw [← returned_append]
        exact congrArg (returned respond []) hcalls
      rw [htrials, outputsFor_append, outputsFor_of_not_mem hnew, List.append_nil]
      exact medianOf_of_series hprogress.series hbefore row hrow
    · rw [hmap]
      exact (hprogress.of_ok hok).1
    · have hpart : part = sweep (Desk.bench respond build) e ⟨spot, []⟩ :=
        run_eq_sweep build hbuild _
      rw [hpart] at hok
      have hcount := parseFailures_of_sweep hopen hok
      rwa [← hpart] at hcount

end Rows

end Experiment

end SizeSweep
