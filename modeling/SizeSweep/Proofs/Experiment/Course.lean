import SizeSweep.Experiment
import SizeSweep.Proofs.Experiment.Samples
import SizeSweep.Proofs.Store.ReadBack
import SizeSweep.Proofs.Sweep

/-!
The course of an experiment on a desk: a results file and an executor that answers each call by
its size and by the calls before it.  The trials of a size run until one fails; a size with all its
samples adds one row; and the sizes are measured in order until the first fault.
-/

namespace SizeSweep

/-! ### Desks -/

/-- The answers of an executor, to a size after the calls made before. -/
abbrev Responses := List UInt64 → UInt64 → Except Trial.Fault String

/-- A results file, and the sizes for which the executor was called. -/
structure Desk where
  file : Spot
  calls : List UInt64 := []
deriving DecidableEq

/-- The surroundings of an executor with these answers and a build with this result, if any. -/
def Desk.bench (respond : Responses) (build : Option (Except Build.Fault Unit)) : Bench Desk where
  results := Desk.file
  setResults desk bytes := { desk with file := .content bytes }
  trial desk size := (respond desk.calls size, { desk with calls := desk.calls ++ [size] })
  build := build.map fun result desk => (result, desk)

namespace Experiment

/-! ### Journals -/

section Journals

variable {before : State}

lemma append_assoc (a b c : Journal) : a ++ b ++ c = a ++ (b ++ c) := by
  have happend : ∀ a b : Journal, a ++ b =
    ⟨a.transitions ++ b.transitions, a.calls ++ b.calls, a.warnings ++ b.warnings⟩ :=
    fun _ _ => rfl
  simp only [happend, List.append_assoc]

lemma stateAfter_append (a b : Journal) (before : State) :
    (a ++ b).stateAfter before = b.stateAfter (a.stateAfter before) := by
  have happend : (a ++ b).transitions = a.transitions ++ b.transitions := rfl
  unfold Journal.stateAfter
  rw [happend, List.getLast?_append]
  cases b.transitions.getLast? <;> rfl

lemma stateAfter_enter {W : Type} (bench : Bench W) (w : W) (state : State) :
    (enter bench w state).stateAfter before = state := rfl

end Journals

/-! ### Trials -/

variable {respond : Responses} (build : Option (Except Build.Fault Unit))

/-- The outputs of the first trials of a size, all of them successful, after some calls. -/
def Answered (respond : Responses) (calls : List UInt64) (size : UInt64) (outputs : List String) :
    Prop :=
  ∀ j (hj : j < outputs.length), respond (calls ++ List.replicate j size) size = .ok outputs[j]

section Trials

variable {calls : List UInt64} {size : UInt64} {output : String} {outputs : List String}
  {fault : Trial.Fault} (e : Experiment) (desk : Desk)

lemma answered_cons : Answered respond calls size (output :: outputs) ↔
    respond calls size = .ok output ∧ Answered respond (calls ++ [size]) size outputs := by
  constructor
  · intro h
    constructor
    · have hzero := h 0 (Nat.succ_pos _)
      rwa [List.replicate_zero, List.append_nil] at hzero
    · intro j hj
      have hsucc := h (j + 1) (Nat.succ_lt_succ hj)
      rwa [List.replicate_succ, List.append_cons] at hsucc
  · rintro ⟨hfirst, hrest⟩ j hj
    cases j with
    | zero => simpa using hfirst
    | succ j =>
      rw [List.replicate_succ, List.append_cons]
      exact hrest j (by simpa using hj)

/-- The trials of a size succeed up to some number, or one before it fails. -/
lemma answered_or_fails (respond : Responses) (calls : List UInt64) (size : UInt64) (n : ℕ) :
    ∃ outputs, Answered respond calls size outputs ∧ (outputs.length = n ∨
      outputs.length < n ∧
        ∃ fault, respond (calls ++ List.replicate outputs.length size) size = .error fault) := by
  induction n generalizing calls with
  | zero => exact ⟨[], fun j hj => absurd hj (Nat.not_lt_zero j), Or.inl rfl⟩
  | succ n ih =>
    rcases hfirst : respond calls size with fault | output
    · refine ⟨[], fun j hj => absurd hj (Nat.not_lt_zero j), Or.inr ⟨n.succ_pos, fault, ?_⟩⟩
      simpa using hfirst
    · obtain ⟨outputs, hanswered, hend⟩ := ih (calls ++ [size])
      refine ⟨output :: outputs, answered_cons.2 ⟨hfirst, hanswered⟩, ?_⟩
      rcases hend with hlength | ⟨hlt, fault, hfault⟩
      · exact Or.inl (by rw [List.length_cons, hlength])
      · refine Or.inr ⟨Nat.succ_lt_succ hlt, fault, ?_⟩
        rwa [List.length_cons, List.replicate_succ, List.append_cons]

/-- A trial that fails is the last one. -/
lemma trials_succ_error (done n : ℕ) (set : SampleSet)
    (h : respond desk.calls size = .error fault) :
    trials (Desk.bench respond build) e size done set (n + 1) desk =
      ⟨.error fault, { enter (Desk.bench respond build) desk (.running size done) with
        calls := [size] }, { desk with calls := desk.calls ++ [size] }⟩ := by
  simp only [trials, Desk.bench, h]

/-- After a trial that succeeds the others go on with its samples. -/
lemma trials_succ_ok (done n : ℕ) (merged : List String)
    (h : respond desk.calls size = .ok output) :
    ∃ journal, trials (Desk.bench respond build) e size done
        (SampleSet.collected e.metrics merged) (n + 1) desk =
      let rest := trials (Desk.bench respond build) e size (done + 1)
        (SampleSet.collected e.metrics (merged ++ [output])) n
        { desk with calls := desk.calls ++ [size] }
      ⟨rest.result, journal ++ rest.journal, rest.world⟩ := by
  refine ⟨{ enter (Desk.bench respond build) desk (.running size done) with
    calls := [size], warnings := (Reading.ofOutput e.metrics output).warnings }, ?_⟩
  rw [← SampleSet.merge_collected]
  simp only [trials, Desk.bench, h]

lemma trials_ok (done : ℕ) (merged : List String)
    (h : Answered respond desk.calls size outputs) :
    ∃ journal, trials (Desk.bench respond build) e size done
        (SampleSet.collected e.metrics merged) outputs.length desk =
      ⟨.ok (SampleSet.collected e.metrics (merged ++ outputs)), journal,
        { desk with calls := desk.calls ++ List.replicate outputs.length size }⟩ := by
  induction outputs generalizing desk done merged with
  | nil => exact ⟨{}, by simp [trials]⟩
  | cons output outputs ih =>
    obtain ⟨hfirst, hrest⟩ := answered_cons.1 h
    obtain ⟨head, hhead⟩ := trials_succ_ok build e desk done outputs.length merged hfirst
    obtain ⟨journal, hjournal⟩ := ih
      { desk with calls := desk.calls ++ [size] } (done + 1) (merged ++ [output]) hrest
    refine ⟨head ++ journal, ?_⟩
    rw [List.length_cons, hhead, hjournal]
    simp [List.replicate_succ]

lemma trials_error (done n : ℕ) (merged : List String)
    (h : Answered respond desk.calls size outputs) (hlt : outputs.length < n)
    (hfault : respond (desk.calls ++ List.replicate outputs.length size) size = .error fault) :
    ∃ journal, trials (Desk.bench respond build) e size done
        (SampleSet.collected e.metrics merged) n desk =
      ⟨.error fault, journal,
        { desk with calls := desk.calls ++ List.replicate (outputs.length + 1) size }⟩ ∧
      ∀ before, journal.stateAfter before = .running size (done + outputs.length) := by
  induction outputs generalizing desk done merged n with
  | nil =>
    obtain ⟨n, rfl⟩ : ∃ k, n = k + 1 := ⟨n - 1, by simp at hlt; omega⟩
    exact ⟨_, trials_succ_error build e desk done n _ (by simpa using hfault), fun before => rfl⟩
  | cons output outputs ih =>
    obtain ⟨n, rfl⟩ : ∃ k, n = k + 1 := ⟨n - 1, by simp at hlt; omega⟩
    obtain ⟨hfirst, hrest⟩ := answered_cons.1 h
    obtain ⟨head, hhead⟩ := trials_succ_ok build e desk done n merged hfirst
    rw [List.length_cons, List.replicate_succ, List.append_cons] at hfault
    obtain ⟨journal, hjournal, hstate⟩ := ih
      { desk with calls := desk.calls ++ [size] } (done + 1) n (merged ++ [output]) hrest
      (by simpa using hlt) hfault
    refine ⟨head ++ journal, ?_, fun before => ?_⟩
    · rw [hhead, hjournal]
      simp [List.replicate_succ]
    · rw [stateAfter_append, hstate, List.length_cons]
      congr 1
      omega

end Trials

/-! ### Sizes -/

/-- The row of a size after some calls: all its trials succeed, and its values are the medians of
what they report. -/
def Measured (e : Experiment) (respond : Responses) (calls : List UInt64) (size : UInt64)
    (row : Row) : Prop :=
  ∃ outputs, outputs.length = e.repetitions ∧ Answered respond calls size outputs ∧
    row.size = size ∧
    row.values.map some = e.metrics.map fun m => median? (SampleSet.samplesIn m outputs)

def store (e : Experiment) : Store := .forMetrics e.results e.metrics

section Sizes

variable {e : Experiment} {size : UInt64} {row : Row} {outputs : List String}

lemma Measured.width {calls : List UInt64} (h : Measured e respond calls size row) :
    row.values.length = e.metrics.length := by
  obtain ⟨outputs, -, -, -, hvalues⟩ := h
  simpa using congrArg List.length hvalues

lemma measure_ok (calls : List UInt64) (h : Measured e respond calls size row) (bytes : Bytes) :
    ∃ journal, measure (Desk.bench respond build) e e.store size ⟨.content bytes, calls⟩ =
      ⟨.ok (), journal, ⟨.content (bytes ++ Store.rowLine row),
        calls ++ List.replicate e.repetitions size⟩⟩ := by
  have hwidth := h.width
  obtain ⟨outputs, hlength, hanswered, rfl, hvalues⟩ := h
  obtain ⟨journal, hjournal⟩ :=
    trials_ok build e ⟨.content bytes, calls⟩ 0 [] hanswered
  have haggregate : (SampleSet.collected e.metrics outputs).aggregate row.size = .ok row :=
    SampleSet.aggregate_collected_ok hvalues
  have happend : e.store.append row (.content bytes) = .ok (bytes ++ Store.rowLine row) :=
    Store.append_content hwidth
  rw [SampleSet.collected_nil, hlength, List.nil_append] at hjournal
  unfold measure
  simp only [hjournal, haggregate]
  unfold record
  simp only [Desk.bench, happend]
  exact ⟨_, rfl⟩

lemma measure_trial {calls : List UInt64} {fault : Trial.Fault} (spot : Spot)
    (h : Answered respond calls size outputs) (hlt : outputs.length < e.repetitions)
    (hfault : respond (calls ++ List.replicate outputs.length size) size = .error fault) :
    ∃ journal, measure (Desk.bench respond build) e e.store size ⟨spot, calls⟩ =
      ⟨.error (.trial fault), journal,
        ⟨spot, calls ++ List.replicate (outputs.length + 1) size⟩⟩ ∧
      ∀ before, journal.stateAfter before = .running size outputs.length := by
  obtain ⟨journal, hjournal, hstate⟩ :=
    trials_error build e ⟨spot, calls⟩ 0 e.repetitions [] h hlt hfault
  rw [SampleSet.collected_nil] at hjournal
  rw [Nat.zero_add] at hstate
  refine ⟨journal, ?_, hstate⟩
  unfold measure
  simp only [hjournal]

lemma measure_missing {calls : List UInt64} {passed rest : List Metric} {m : Metric} (spot : Spot)
    (h : Answered respond calls size outputs) (hlength : outputs.length = e.repetitions)
    (hmetrics : e.metrics = passed ++ m :: rest)
    (hpassed : ∀ p ∈ passed, SampleSet.samplesIn p outputs ≠ [])
    (hm : SampleSet.samplesIn m outputs = []) :
    ∃ journal, measure (Desk.bench respond build) e e.store size ⟨spot, calls⟩ =
      ⟨.error (.aggregate (.emptySample m.column)), journal,
        ⟨spot, calls ++ List.replicate e.repetitions size⟩⟩ ∧
      ∀ before, journal.stateAfter before = .aggregating size := by
  obtain ⟨journal, hjournal⟩ := trials_ok build e ⟨spot, calls⟩ 0 [] h
  have haggregate : (SampleSet.collected e.metrics outputs).aggregate size =
      .error (.emptySample m.column) :=
    SampleSet.aggregate_collected_error hmetrics hpassed hm
  rw [SampleSet.collected_nil, hlength, List.nil_append] at hjournal
  unfold measure
  simp only [hjournal, haggregate]
  exact ⟨_, rfl, fun before => stateAfter_append ..⟩

/-- A size is measured, or one of its trials fails, or a metric has no sample. -/
lemma measured_or_stops (e : Experiment) (respond : Responses) (calls : List UInt64)
    (size : UInt64) :
    (∃ row, Measured e respond calls size row) ∨
      ∃ outputs, Answered respond calls size outputs ∧
        ((outputs.length < e.repetitions ∧
            ∃ fault, respond (calls ++ List.replicate outputs.length size) size = .error fault) ∨
          (outputs.length = e.repetitions ∧ ∃ passed m rest, e.metrics = passed ++ m :: rest ∧
            (∀ p ∈ passed, SampleSet.samplesIn p outputs ≠ []) ∧
            SampleSet.samplesIn m outputs = [])) := by
  obtain ⟨outputs, hanswered, hlength | hfails⟩ :=
    answered_or_fails respond calls size e.repetitions
  · rcases SampleSet.medians_or_missing e.metrics outputs with ⟨values, hvalues⟩ | hmissing
    · exact Or.inl ⟨⟨size, values⟩, outputs, hlength, hanswered, rfl, hvalues⟩
    · exact Or.inr ⟨outputs, hanswered, Or.inr ⟨hlength, hmissing⟩⟩
  · exact Or.inr ⟨outputs, hanswered, Or.inl hfails⟩

end Sizes

/-! ### Series of sizes -/

def allCalls (e : Experiment) (sizes : List UInt64) : List UInt64 :=
  sizes.flatMap (List.replicate e.repetitions)

/-- The rows of sizes that are measured one after another, the first of them after some calls. -/
def Series (e : Experiment) (respond : Responses) : List UInt64 → List UInt64 → List Row → Prop
  | _, [], [] => True
  | calls, size :: sizes, row :: rows =>
    Measured e respond calls size row ∧
      Series e respond (calls ++ List.replicate e.repetitions size) sizes rows
  | _, _, _ => False

section Series

variable {e : Experiment} {calls sizes : List UInt64} {rows : List Row}

/-- Sizes that are to be skipped take no part. -/
lemma measureAll_skip {W : Type} (bench : Bench W) (store : Store) (skip sizes : List UInt64)
    (w : W) :
    measureAll bench e store skip sizes w =
      measureAll bench e store [] (sizes.filter fun size => !skip.contains size) w := by
  induction sizes generalizing w with
  | nil => rfl
  | cons size sizes ih =>
    by_cases hskip : skip.contains size = true
    · rw [measureAll, if_pos hskip, ih, List.filter_cons_of_neg (by simpa using hskip)]
    · rw [List.filter_cons_of_pos (by simpa using hskip), measureAll, measureAll, if_neg hskip,
        if_neg (by simp)]
      simp only [ih]

/-- Measured sizes leave their rows and their calls behind. -/
lemma measureAll_series (h : Series e respond calls sizes rows) (bytes : Bytes)
    (rest : List UInt64) :
    ∃ journal,
      measureAll (Desk.bench respond build) e e.store [] (sizes ++ rest) ⟨.content bytes, calls⟩ =
        let last := measureAll (Desk.bench respond build) e e.store [] rest
          ⟨.content (bytes ++ rows.flatMap Store.rowLine), calls ++ e.allCalls sizes⟩
        ⟨last.result.map (sizes ++ ·), journal ++ last.journal, last.world⟩ := by
  induction sizes generalizing calls rows bytes with
  | nil =>
    obtain rfl : rows = [] := by
      rcases rows with _ | ⟨row, rows⟩
      · rfl
      · exact h.elim
    refine ⟨{}, ?_⟩
    have hmap : ∀ result : Except Halt (List UInt64), result.map (fun sizes => sizes) = result := by
      rintro (halt | sizes) <;> rfl
    simp only [List.nil_append, List.flatMap_nil, List.append_nil, allCalls, hmap]
    rfl
  | cons size sizes ih =>
    rcases rows with _ | ⟨row, rows⟩
    · exact h.elim
    · obtain ⟨hrow, hrows⟩ := h
      obtain ⟨first, hfirst⟩ := measure_ok build calls hrow bytes
      obtain ⟨journal, hjournal⟩ := ih hrows (bytes ++ Store.rowLine row)
      refine ⟨first ++ journal, ?_⟩
      have hmap : ∀ result : Except Halt (List UInt64),
          (result.map (sizes ++ ·)).map (size :: ·) = result.map (size :: sizes ++ ·) := by
        rintro (halt | sizes) <;> rfl
      rw [List.cons_append, measureAll, if_neg (by simp)]
      simp only [hfirst, hjournal, hmap, append_assoc, allCalls, List.flatMap_cons,
        List.append_assoc]

end Series

/-! ### The course of a run -/

/-- The sizes of an experiment that are to be measured. -/
def todo (e : Experiment) (skip : List UInt64) : List UInt64 :=
  e.sizes.filter fun size => !skip.contains size

/-- The sizes recorded in what a results path holds. -/
def recordedIn : Spot → List UInt64
  | .content bytes => match Table.ofBytes bytes with
    | .ok table => table.sizes
    | .error _ => []
  | _ => []

/-- What a run comes to: the sizes it persisted and skipped or why it halted, the calls made, the
last state and the results file. -/
structure Outcome where
  result : Except Halt (List UInt64 × List UInt64)
  calls : List UInt64
  state : State
  file : Spot

/-- The outcome of a run from the first state on. -/
def outcome (part : Part Desk (Except Halt Report)) : Outcome where
  result := part.result.map fun report => (report.persisted, report.skipped)
  calls := part.world.calls
  state := part.journal.stateAfter .notStarted
  file := part.world.file

lemma isOk_outcome (part : Part Desk (Except Halt Report)) :
    (outcome part).result.isOk = part.result.isOk := by
  unfold outcome
  cases part.result <;> rfl

/-- The course of a sweep whose results file held `opened` at the start: the sizes that are not to
be skipped are measured in order, until a trial fails, or a size has no sample of a metric. -/
inductive Course (e : Experiment) (respond : Responses) (opened : Bytes) (skip : List UInt64) :
    Outcome → Prop
  /-- A trial of a size fails, and it is the last call. -/
  | trial {before after : List UInt64} {size : UInt64} {rows : List Row} {outputs : List String}
      {fault : Trial.Fault}
      (hsizes : e.todo skip = before ++ size :: after)
      (hbefore : Series e respond [] before rows)
      (hanswered : Answered respond (e.allCalls before) size outputs)
      (hlt : outputs.length < e.repetitions)
      (hfault : respond (e.allCalls before ++ List.replicate outputs.length size) size =
        .error fault) :
      Course e respond opened skip
        ⟨.error ⟨some size, .trial fault⟩,
          e.allCalls before ++ List.replicate (outputs.length + 1) size,
          .running size outputs.length, .content (opened ++ rows.flatMap Store.rowLine)⟩
  /-- All trials of a size succeed, and some metric, `m` first, has no sample. -/
  | sample {before after : List UInt64} {size : UInt64} {rows : List Row} {outputs : List String}
      {passed rest : List Metric} {m : Metric}
      (hsizes : e.todo skip = before ++ size :: after)
      (hbefore : Series e respond [] before rows)
      (hanswered : Answered respond (e.allCalls before) size outputs)
      (hlength : outputs.length = e.repetitions)
      (hmetrics : e.metrics = passed ++ m :: rest)
      (hpassed : ∀ p ∈ passed, SampleSet.samplesIn p outputs ≠ [])
      (hm : SampleSet.samplesIn m outputs = []) :
      Course e respond opened skip
        ⟨.error ⟨some size, .aggregate (.emptySample m.column)⟩,
          e.allCalls before ++ List.replicate e.repetitions size,
          .aggregating size, .content (opened ++ rows.flatMap Store.rowLine)⟩
  /-- All sizes are measured. -/
  | complete {rows : List Row} (hall : Series e respond [] (e.todo skip) rows) :
      Course e respond opened skip
        ⟨.ok (e.todo skip, e.sizes.filter skip.contains), e.allCalls (e.todo skip), .complete,
          .content (opened ++ rows.flatMap Store.rowLine)⟩

section Course

variable {e : Experiment} {skip : List UInt64} {opened : Bytes} {spot : Spot}

/-- The rows of the sizes before the first fault, and what stops the next size. -/
lemma series_or_stops (e : Experiment) (respond : Responses) (calls sizes : List UInt64) :
    (∃ rows, Series e respond calls sizes rows) ∨
      ∃ before size after rows, sizes = before ++ size :: after ∧
        Series e respond calls before rows ∧
        ¬∃ row, Measured e respond (calls ++ e.allCalls before) size row := by
  induction sizes generalizing calls with
  | nil => exact Or.inl ⟨[], trivial⟩
  | cons size sizes ih =>
    by_cases hrow : ∃ row, Measured e respond calls size row
    · obtain ⟨row, hrow⟩ := hrow
      rcases ih (calls ++ List.replicate e.repetitions size) with
        ⟨rows, hrows⟩ | ⟨before, stop, after, rows, rfl, hrows, hstop⟩
      · exact Or.inl ⟨row :: rows, hrow, hrows⟩
      · refine Or.inr ⟨size :: before, stop, after, row :: rows, rfl, ⟨hrow, hrows⟩, ?_⟩
        simpa [allCalls] using hstop
    · exact Or.inr ⟨[], size, sizes, [], rfl, trivial, by simpa [allCalls] using hrow⟩

/-- Some course is taken. -/
lemma exists_course (e : Experiment) (respond : Responses) (opened : Bytes)
    (skip : List UInt64) : ∃ o, Course e respond opened skip o := by
  rcases series_or_stops e respond [] (e.todo skip) with
    ⟨rows, hall⟩ | ⟨before, size, after, rows, hsizes, hbefore, hstop⟩
  · exact ⟨_, .complete hall⟩
  · rw [List.nil_append] at hstop
    rcases measured_or_stops e respond (e.allCalls before) size with
      hrow | ⟨outputs, hanswered, ⟨hlt, fault, hfault⟩ | ⟨hlength, passed, m, rest, hm⟩⟩
    · exact absurd hrow hstop
    · exact ⟨_, .trial hsizes hbefore hanswered hlt hfault⟩
    · exact ⟨_, .sample hsizes hbefore hanswered hlength hm.1 hm.2.1 hm.2.2⟩

lemma run_eq_sweep (hbuild : ∀ fault, build ≠ some (.error fault)) (desk : Desk) :
    run (Desk.bench respond build) e desk = sweep (Desk.bench respond build) e desk := by
  rcases build with _ | (fault | _)
  · rfl
  · exact absurd rfl (hbuild fault)
  · rfl

/-- A sweep that opens its file measures the sizes to be measured. -/
lemma sweep_eq (hopen : e.openStore e.store spot = .ok (opened, skip)) (calls : List UInt64) :
    sweep (Desk.bench respond build) e ⟨spot, calls⟩ =
      let measured := measureAll (Desk.bench respond build) e e.store [] (e.todo skip)
        ⟨.content opened, calls⟩
      match measured.result with
      | .error halt => ⟨.error halt, measured.journal, measured.world⟩
      | .ok persisted =>
        ⟨.ok ⟨persisted, e.sizes.filter skip.contains, measured.journal.warnings.length⟩,
          measured.journal ++ enter (Desk.bench respond build) measured.world .complete,
          measured.world⟩ := by
  unfold sweep
  have hspot : (Desk.bench respond build).results ⟨spot, calls⟩ = spot := rfl
  simp only [hspot]
  rw [show Store.forMetrics e.results e.metrics = e.store from rfl, hopen]
  simp only [measureAll_skip _ _ skip]
  rfl

/-- A course is what the run comes to. -/
lemma outcome_of_course {o : Outcome} (h : Course e respond opened skip o)
    (hopen : e.openStore e.store spot = .ok (opened, skip)) :
    o = outcome (sweep (Desk.bench respond build) e ⟨spot, []⟩) := by
  rw [sweep_eq build hopen]
  cases h with
  | @trial before after size rows outputs fault hsizes hbefore hanswered hlt hfault =>
    obtain ⟨journal, hseries⟩ := measureAll_series build hbefore opened (size :: after)
    obtain ⟨last, hlast, hstate⟩ := measure_trial build
      (.content (opened ++ rows.flatMap Store.rowLine)) hanswered hlt hfault
    rw [hsizes, hseries, measureAll, if_neg (by simp), List.nil_append]
    simp only [hlast, outcome, Except.map, stateAfter_append, hstate]
  | @sample before after size rows outputs passed rest m hsizes hbefore hanswered hlength hmetrics
      hpassed hm =>
    obtain ⟨journal, hseries⟩ := measureAll_series build hbefore opened (size :: after)
    obtain ⟨last, hlast, hstate⟩ := measure_missing build
      (.content (opened ++ rows.flatMap Store.rowLine)) hanswered hlength hmetrics hpassed hm
    rw [hsizes, hseries, measureAll, if_neg (by simp), List.nil_append]
    simp only [hlast, outcome, Except.map, stateAfter_append, hstate]
  | @complete rows hall =>
    obtain ⟨journal, hseries⟩ := measureAll_series build hall opened []
    rw [List.append_nil] at hseries
    rw [hseries, measureAll, List.nil_append]
    simp only [outcome, Except.map, stateAfter_append, stateAfter_enter, List.append_nil]

lemma resume_sizes {store : Store} (h : store.resume spot = .ok (opened, skip)) :
    skip = recordedIn spot := by
  unfold Store.resume at h
  split at h
  · cases h
  · cases h
    rfl
  · cases h
    rfl
  · rename_i bytes _
    rcases hread : Table.ofBytes bytes with fault | table
    · simp [hread] at h
    · simp only [hread] at h
      split_ifs at h
      cases h
      simp only [recordedIn, hread]

lemma skip_of_openStore (hopen : e.openStore e.store spot = .ok (opened, skip)) :
    skip = match e.mode with
      | .fresh => []
      | .resume => recordedIn spot := by
  unfold openStore at hopen
  cases hmode : e.mode with
  | fresh =>
    rw [hmode] at hopen
    rcases hfresh : e.store.fresh spot with fault | bytes
    · simp [hfresh, Except.map] at hopen
    · simp only [hfresh, Except.map, Except.ok.injEq, Prod.mk.injEq] at hopen
      exact hopen.2.symm
  | resume =>
    rw [hmode] at hopen
    exact resume_sizes hopen

lemma pairwise_todo (e : Experiment) (skip : List UInt64) : (e.todo skip).Pairwise (· < ·) :=
  (Sweep.check_eq_ok_iff.1 e.sizes_ok).2.2.filter _

/-- **The course of a run.**  Once its results file is open, a run measures exactly the sizes that
the file does not record, in ascending order, and it takes exactly one course. -/
theorem course_iff_outcome (e : Experiment) (respond : Responses)
    (build : Option (Except Build.Fault Unit)) (hbuild : ∀ fault, build ≠ some (.error fault))
    (spot : Spot) (opened : Bytes) (skip : List UInt64)
    (hopen : e.openStore e.store spot = .ok (opened, skip)) :
    (skip = match e.mode with
      | .fresh => []
      | .resume => recordedIn spot) ∧
    (e.todo skip).Pairwise (· < ·) ∧
    ∀ o, Course e respond opened skip o ↔
      o = outcome (run (Desk.bench respond build) e ⟨spot, []⟩) := by
  refine ⟨skip_of_openStore hopen, pairwise_todo e skip, fun o => ?_⟩
  rw [run_eq_sweep build hbuild]
  constructor
  · exact fun h => outcome_of_course build h hopen
  · rintro rfl
    obtain ⟨o, h⟩ := exists_course e respond opened skip
    rw [← outcome_of_course build h hopen]
    exact h

/-- Two sizes with two trials each. -/
def twoSizes : Experiment where
  sizes := [8, 16]
  repetitions := 2
  mode := .fresh
  metrics := [⟨"ns", "mean"⟩]
  results := "sweep.csv"
  sizes_ok := by decide
  metrics_ok := by decide
  repetitions_ne_zero := by decide

/-- The second trial of the first size fails. -/
theorem course_iff_outcome_second_trial :
    let respond : Responses := fun calls _ =>
      if calls.length = 1 then .error (.spawn "m" "gone") else .ok "mean: 1"
    outcome (run (Desk.bench respond none) twoSizes ⟨.missing, []⟩) =
      ⟨.error ⟨some 8, .trial (.spawn "m" "gone")⟩, [8, 8], .running 8 1,
        .content (Csv.line ["size", "ns"])⟩ := by
  intro respond
  obtain ⟨-, -, hiff⟩ := course_iff_outcome twoSizes respond none (by simp) .missing
    (Csv.line ["size", "ns"]) [] rfl
  have hanswered : Answered respond [] 8 ["mean: 1"] := answered_cons.2 ⟨rfl, by simp [Answered]⟩
  have hcourse := @Course.trial twoSizes respond (Csv.line ["size", "ns"]) [] [] [16] 8 []
    ["mean: 1"] (.spawn "m" "gone") rfl trivial hanswered (by decide) rfl
  rw [← (hiff _).1 hcourse, List.flatMap_nil, List.append_nil]
  rfl

end Course

end Experiment

end SizeSweep
