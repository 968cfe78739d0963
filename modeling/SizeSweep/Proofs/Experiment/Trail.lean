import SizeSweep.Proofs.Experiment.Course

/-!
The trail of a run: the states that it enters, with what the results file holds at each of them.
Around a file that nothing else writes, a run takes one size after another through its phases, the
rows in the file are always those of the sizes behind it, and it leaves this path only by halting.
-/

namespace SizeSweep

/-! ### Isolated benches -/

/-- Nothing but a run itself writes the results file. -/
structure Bench.Isolated {W : Type} (bench : Bench W) : Prop where
  written : ∀ w bytes, bench.results (bench.setResults w bytes) = .content bytes
  trial : ∀ w size, bench.results (bench.trial w size).2 = bench.results w
  build : ∀ build ∈ bench.build, ∀ w, bench.results (build w).2 = bench.results w

lemma Desk.isolated (respond : Responses) (build : Option (Except Build.Fault Unit)) :
    (Desk.bench respond build).Isolated where
  written _ _ := rfl
  trial _ _ := rfl
  build := by
    intro step hstep desk
    obtain ⟨result, -, rfl⟩ := Option.map_eq_some_iff.1 hstep
    rfl

namespace Experiment

lemma transitions_append (a b : Journal) :
    (a ++ b).transitions = a.transitions ++ b.transitions := rfl

/-! ### Paths -/

/-- The states of a size until its row is recorded. -/
def phases (e : Experiment) (size : UInt64) : List State :=
  (List.range e.repetitions).map (State.running size) ++ [.aggregating size]

lemma mem_phases {e : Experiment} {size : UInt64} {state : State} (h : state ∈ e.phases size) :
    (∃ j, state = .running size j) ∨ state = .aggregating size := by
  rcases List.mem_append.1 h with hrunning | haggregating
  · obtain ⟨j, -, rfl⟩ := List.mem_map.1 hrunning
    exact Or.inl ⟨j, rfl⟩
  · exact Or.inr (List.mem_singleton.1 haggregating)

/-- The states of a complete run that measures some sizes. -/
def path (e : Experiment) (todo : List UInt64) : List State :=
  todo.flatMap (fun size => e.phases size ++ [.persisted size]) ++ [.complete]

lemma path_append (e : Experiment) (done todo : List UInt64) :
    e.path (done ++ todo) =
      done.flatMap (fun size => e.phases size ++ [.persisted size]) ++ e.path todo := by
  simp [path]

/-- How the measuring of a size stops short, with the states of the size until then. -/
inductive Stops (e : Experiment) (size : UInt64) : Fault → List State → Prop
  /-- A trial fails after `done` others. -/
  | trial (fault : Trial.Fault) {done : ℕ} (h : done < e.repetitions) :
      Stops e size (.trial fault) ((List.range (done + 1)).map (State.running size))
  /-- All trials succeed, and there is no row. -/
  | sample (fault : AggregateFault) : Stops e size (.aggregate fault) (e.phases size)

/-- States that are entered while the results path holds the same. -/
def entered (spot : Spot) (states : List State) : List Transition := states.map (⟨·, spot⟩)

/-- The transitions of sizes that are measured one after another, with their rows. -/
def trail (e : Experiment) : Bytes → List Row → List Transition
  | _, [] => []
  | bytes, row :: rows =>
    entered (.content bytes) (e.phases row.size) ++
      ⟨.persisted row.size, .content (bytes ++ Store.rowLine row)⟩ ::
        e.trail (bytes ++ Store.rowLine row) rows

section Steps

variable {W : Type} {bench : Bench W} {e : Experiment} {size : UInt64} {bytes : Bytes}

/-! ### Steps -/

/-- The trials of a size leave the file alone; they go on up to the last, or to one that fails. -/
lemma trials_trail (h : bench.Isolated) (e : Experiment) (size : UInt64) (done n : ℕ)
    (merged : List String) (w : W) :
    let tried := trials bench e size done (SampleSet.collected e.metrics merged) n w
    bench.results tried.world = bench.results w ∧
      ((∃ outputs, tried.result = .ok (SampleSet.collected e.metrics outputs) ∧
          tried.journal.transitions =
            entered (bench.results w) ((List.range' done n).map (State.running size))) ∨
        ∃ fault, ∃ k < n, tried.result = .error fault ∧
          tried.journal.transitions =
            entered (bench.results w) ((List.range' done (k + 1)).map (State.running size))) := by
  induction n generalizing done merged w with
  | zero => exact ⟨rfl, Or.inl ⟨merged, rfl, rfl⟩⟩
  | succ n ih =>
    have hfile := h.trial w size
    rcases htrial : bench.trial w size with ⟨fault | output, w'⟩
    · rw [htrial] at hfile
      simp only [trials, htrial]
      exact ⟨hfile, Or.inr ⟨fault, 0, n.succ_pos, rfl, rfl⟩⟩
    · rw [htrial] at hfile
      obtain ⟨hrest, hend⟩ := ih (done + 1) (merged ++ [output]) w'
      rw [← SampleSet.merge_collected, hfile] at hrest hend
      simp only [trials, htrial]
      refine ⟨hrest, ?_⟩
      rcases hend with ⟨outputs, hresult, htransitions⟩ | ⟨fault, k, hk, hresult, htransitions⟩
      · refine Or.inl ⟨outputs, hresult, ?_⟩
        rw [transitions_append, htransitions, List.range'_succ]
        rfl
      · refine Or.inr ⟨fault, k + 1, Nat.succ_lt_succ hk, hresult, ?_⟩
        rw [transitions_append, htransitions, List.range'_succ (n := k + 1)]
        rfl

/-- Behind all trials of a size the run is through its phases. -/
lemma transitions_phases {journal : Journal} {w : W} (hw : bench.results w = .content bytes)
    (h : journal.transitions =
      entered (.content bytes) ((List.range e.repetitions).map (State.running size))) :
    (journal ++ enter bench w (.aggregating size)).transitions =
      entered (.content bytes) (e.phases size) := by
  rw [transitions_append, h, phases, entered, entered, List.map_append, ← hw]
  rfl

/-- A size is measured and its row recorded, or its measuring stops short and the file stays. -/
lemma measure_trail (h : bench.Isolated) (e : Experiment) (size : UInt64) (w : W)
    (hw : bench.results w = .content bytes) :
    let measured := measure bench e e.store size w
    (∃ row : Row, row.size = size ∧ row.values.length = e.metrics.length ∧
        measured.result = .ok () ∧
        bench.results measured.world = .content (bytes ++ Store.rowLine row) ∧
        measured.journal.transitions = e.trail bytes [row]) ∨
      ∃ cause states, Stops e size cause states ∧ measured.result = .error cause ∧
        bench.results measured.world = .content bytes ∧
        measured.journal.transitions = entered (.content bytes) states := by
  obtain ⟨hfile, hend⟩ := trials_trail h e size 0 e.repetitions [] w
  rw [SampleSet.collected_nil] at hfile hend
  rw [hw] at hfile hend
  unfold measure
  generalize trials bench e size 0 (SampleSet.empty e.metrics) e.repetitions w = tried
    at hfile hend
  -- the trials are through, and then the medians decide, or one of them has failed
  rcases hend with ⟨outputs, hresult, htransitions⟩ | ⟨fault, k, hk, hresult, htransitions⟩
  · rw [← List.range_eq_range'] at htransitions
    have hphases := transitions_phases hfile htransitions
    rcases SampleSet.medians_or_missing e.metrics outputs with
      ⟨values, hvalues⟩ | ⟨passed, m, rest, hmetrics, hpassed, hm⟩
    · have hwidth : values.length = e.metrics.length := by
        simpa using congrArg List.length hvalues
      have haggregate : (SampleSet.collected e.metrics outputs).aggregate size =
          .ok ⟨size, values⟩ := SampleSet.aggregate_collected_ok hvalues
      have happend : e.store.append ⟨size, values⟩ (bench.results tried.world) =
          .ok (bytes ++ Store.rowLine ⟨size, values⟩) := by
        rw [hfile]
        exact Store.append_content hwidth
      simp only [hresult, haggregate, record, happend]
      refine Or.inl ⟨⟨size, values⟩, rfl, hwidth, trivial, h.written _ _, ?_⟩
      rw [transitions_append, hphases, trail, trail]
      simp only [enter, h.written]
    · have haggregate : (SampleSet.collected e.metrics outputs).aggregate size =
          .error (.emptySample m.column) :=
        SampleSet.aggregate_collected_error hmetrics hpassed hm
      simp only [hresult, haggregate]
      exact Or.inr ⟨_, _, .sample _, rfl, hfile, hphases⟩
  · rw [← List.range_eq_range'] at htransitions
    simp only [hresult]
    exact Or.inr ⟨_, _, .trial fault hk, rfl, hfile, htransitions⟩

/-- The first of some sizes are measured, and if others are left, the next one stops short. -/
lemma measureAll_trail (h : bench.Isolated) (e : Experiment) (sizes : List UInt64) (w : W)
    (hw : bench.results w = .content bytes) :
    let measured := measureAll bench e e.store [] sizes w
    ∃ rows : List Row, (∀ row ∈ rows, row.values.length = e.metrics.length) ∧
      bench.results measured.world = .content (bytes ++ rows.flatMap Store.rowLine) ∧
      ((rows.map Row.size = sizes ∧ measured.result = .ok sizes ∧
          measured.journal.transitions = e.trail bytes rows) ∨
        ∃ size after cause states, sizes = rows.map Row.size ++ size :: after ∧
          Stops e size cause states ∧ measured.result = .error ⟨some size, cause⟩ ∧
          measured.journal.transitions = e.trail bytes rows ++
            entered (.content (bytes ++ rows.flatMap Store.rowLine)) states) := by
  induction sizes generalizing w bytes with
  | nil =>
    refine ⟨[], by simp, ?_, Or.inl ⟨rfl, rfl, rfl⟩⟩
    rw [List.flatMap_nil, List.append_nil]
    exact hw
  | cons size sizes ih =>
    rw [measureAll, if_neg (by simp)]
    rcases measure_trail h e size w hw with
      ⟨row, rfl, hwidth, hresult, hfile, htransitions⟩ |
      ⟨cause, states, hstops, hresult, hfile, htransitions⟩
    · obtain ⟨rows, hwidths, hrest, hend⟩ := ih _ hfile
      rw [List.append_assoc] at hrest
      simp only [hresult]
      refine ⟨row :: rows, List.forall_mem_cons.2 ⟨hwidth, hwidths⟩, hrest, ?_⟩
      rcases hend with ⟨hsizes, hall, hmore⟩ |
        ⟨next, after, cause, states, hsizes, hstops, hall, hmore⟩
      · refine Or.inl ⟨by rw [List.map_cons, hsizes], by rw [hall]; rfl, ?_⟩
        rw [transitions_append, htransitions, hmore]
        simp [trail]
      · refine Or.inr ⟨next, after, cause, states, by rw [List.map_cons, hsizes]; rfl, hstops,
          by rw [hall]; rfl, ?_⟩
        rw [transitions_append, htransitions, hmore]
        simp [trail]
    · -- the sweep ends at this size, with what its phases left
      simp only [hresult]
      refine ⟨[], by simp, ?_, Or.inr ⟨size, sizes, cause, states, rfl, hstops, rfl, ?_⟩⟩
      · rw [List.flatMap_nil, List.append_nil]
        exact hfile
      · rw [List.flatMap_nil, List.append_nil]
        exact htransitions

end Steps

/-! ### Runs -/

/-- How a run ends behind some rows, with the states that it enters then. -/
inductive Ends (e : Experiment) (skip : List UInt64) (rows : List Row) :
    Except Halt Report → List State → Prop
  | complete (failures : ℕ) (h : rows.map Row.size = e.todo skip) :
      Ends e skip rows (.ok ⟨rows.map Row.size, e.sizes.filter skip.contains, failures⟩)
        [.complete]
  | halt {size : UInt64} {after : List UInt64} {cause : Fault} {states : List State}
      (h : e.todo skip = rows.map Row.size ++ size :: after) (hstops : Stops e size cause states) :
      Ends e skip rows (.error ⟨some size, cause⟩) states

section Ends

variable {e : Experiment} {skip : List UInt64} {rows : List Row} {last : List State}
  {result : Except Halt Report}

lemma Ends.prefix_todo (h : Ends e skip rows result last) : rows.map Row.size <+: e.todo skip := by
  cases h with
  | complete failures hsizes => exact hsizes ▸ List.prefix_rfl
  | halt hsizes => exact hsizes ▸ List.prefix_append ..

lemma Ends.sizes_of_isOk (h : Ends e skip rows result last) (hok : result.isOk = true) :
    rows.map Row.size = e.todo skip := by
  cases h with
  | complete failures hsizes => exact hsizes
  | halt => simp [Except.isOk, Except.toBool] at hok

end Ends

/-- What a run leaves that found `opened` in its file: the rows of the first sizes to be measured,
their transitions, and those of its end. -/
structure Trailed {W : Type} (bench : Bench W) (e : Experiment) (opened : Bytes)
    (skip : List UInt64) (rows : List Row) (last : List State)
    (part : Part W (Except Halt Report)) : Prop where
  width : ∀ row ∈ rows, row.values.length = e.metrics.length
  file : bench.results part.world = .content (opened ++ rows.flatMap Store.rowLine)
  ends : Ends e skip rows part.result last
  transitions : part.journal.transitions =
    e.trail opened rows ++ entered (bench.results part.world) last

/-- What a run leaves that halts before the first size: it has entered no state, and the file is
as it was. -/
structure Stays {W : Type} (bench : Bench W) (w : W) (cause : Fault)
    (part : Part W (Except Halt Report)) : Prop where
  result : part.result = .error ⟨none, cause⟩
  transitions : part.journal.transitions = []
  file : bench.results part.world = bench.results w

section Runs

variable {W : Type} {bench : Bench W} {e : Experiment} {opened : Bytes} {skip : List UInt64}
  {rows : List Row} {last states : List State} {size : UInt64} {cause : Fault}
  {part : Part W (Except Halt Report)}

lemma prepare_isolated (h : bench.Isolated) (w : W) :
    bench.results (prepare bench w).2 = bench.results w := by
  unfold prepare
  rcases hbuild : bench.build with _ | build
  · rfl
  · exact h.build build hbuild w

lemma run_of_build {fault : Build.Fault} (h : bench.Isolated) (e : Experiment) (w : W)
    (hbuild : (prepare bench w).1 = .error fault) :
    Stays bench w (.build fault) (run bench e w) := by
  have hfile := prepare_isolated h w
  unfold run
  generalize prepare bench w = prepared at hbuild hfile
  obtain ⟨result, w'⟩ := prepared
  obtain rfl : result = .error fault := hbuild
  exact ⟨rfl, rfl, hfile⟩

lemma run_of_store {fault : Store.Fault} (h : bench.Isolated) (w : W)
    (hbuild : (prepare bench w).1 = .ok ())
    (hopen : e.openStore e.store (bench.results w) = .error fault) :
    Stays bench w (.store fault) (run bench e w) := by
  have hfile := prepare_isolated h w
  unfold run
  generalize prepare bench w = prepared at hbuild hfile
  obtain ⟨result, w'⟩ := prepared
  obtain rfl : result = .ok () := hbuild
  rw [← hfile, store] at hopen
  simp only [sweep, hopen]
  exact ⟨rfl, rfl, hfile⟩

/-- A run that opens its file measures the first of the sizes to be measured, and it ends. -/
lemma run_trailed (h : bench.Isolated) (w : W) (hbuild : (prepare bench w).1 = .ok ())
    (hopen : e.openStore e.store (bench.results w) = .ok (opened, skip)) :
    ∃ rows last, Trailed bench e opened skip rows last (run bench e w) := by
  have hfile := prepare_isolated h w
  unfold run
  generalize prepare bench w = prepared at hbuild hfile
  obtain ⟨result, w'⟩ := prepared
  obtain rfl : result = .ok () := hbuild
  obtain ⟨rows, hwidth, hgrown, hend⟩ := measureAll_trail h e (e.todo skip)
    (bench.setResults w' opened) (h.written w' opened)
  -- the run takes all sizes and passes over those to skip
  rw [todo, ← measureAll_skip bench e.store skip, store] at hgrown hend
  rw [← hfile, store] at hopen
  simp only [sweep, hopen]
  generalize measureAll bench e (Store.forMetrics e.results e.metrics) skip e.sizes
    (bench.setResults w' opened) = measured at hgrown hend
  rcases hend with ⟨hsizes, hresult, htransitions⟩ |
    ⟨size, after, cause, states, hsizes, hstops, hresult, htransitions⟩
  · refine ⟨rows, [.complete], ?_⟩
    simp only [hresult]
    rw [← hsizes]
    refine ⟨hwidth, hgrown, .complete _ hsizes, ?_⟩
    rw [transitions_append, htransitions]
    rfl
  · refine ⟨rows, states, ?_⟩
    simp only [hresult]
    refine ⟨hwidth, hgrown, .halt hsizes hstops, ?_⟩
    rw [htransitions, hgrown]

/-- A run opens its file, or it halts before the first size. -/
lemma stays_or_trailed (h : bench.Isolated) (e : Experiment) (w : W) :
    (∃ cause, Stays bench w cause (run bench e w)) ∨
      ∃ opened skip rows last, e.openStore e.store (bench.results w) = .ok (opened, skip) ∧
        Trailed bench e opened skip rows last (run bench e w) := by
  rcases hbuild : (prepare bench w).1 with fault | _
  · exact Or.inl ⟨_, run_of_build h e w hbuild⟩
  · rcases hopen : e.openStore e.store (bench.results w) with fault | ⟨opened, skip⟩
    · exact Or.inl ⟨_, run_of_store h w hbuild hopen⟩
    · obtain ⟨rows, last, htrailed⟩ := run_trailed h w hbuild hopen
      exact Or.inr ⟨opened, skip, rows, last, rfl, htrailed⟩

end Runs

end Experiment

end SizeSweep
