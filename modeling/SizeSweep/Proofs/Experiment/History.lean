import SizeSweep.Proofs.Experiment.Resumption
import SizeSweep.Proofs.Experiment.States

/-!
Histories of one results file.  A fresh run starts it, and other runs resume it, each with sizes
and surroundings of its own.  The rows of the file are only ever added to, and no size has two of
them.
-/

namespace SizeSweep.Experiment

/-! ### Recorded rows -/

/-- The size whose row is recorded on entering a state. -/
def State.persisted? : State → Option UInt64
  | .persisted size => some size
  | _ => none

/-- The sizes whose rows are recorded in a part of a run. -/
def Journal.persisted (journal : Journal) : List UInt64 :=
  (journal.transitions.map Transition.state).filterMap State.persisted?

section Recorded

variable {W : Type} {bench : Bench W} {e : Experiment} {opened : Bytes} {skip : List UInt64}
  {rows : List Row} {last : List State} {part : Part W (Except Halt Report)} {size : UInt64}
  {result : Except Halt Report}

lemma persisted_phases (e : Experiment) (size : UInt64) :
    (e.phases size).filterMap State.persisted? = [] := by
  rw [List.filterMap_eq_nil_iff]
  intro state hstate
  rcases mem_phases hstate with ⟨j, rfl⟩ | rfl <;> rfl

lemma Ends.persisted (h : Ends e skip rows result last) :
    last.filterMap State.persisted? = [] := by
  cases h with
  | complete => rfl
  | @halt size after cause _ hsizes hstops =>
    have hphases := persisted_phases e size
    rw [List.filterMap_eq_nil_iff] at hphases ⊢
    exact fun state hstate => hphases state (hstops.prefix_phases.subset hstate)

lemma Trailed.persisted (h : Trailed bench e opened skip rows last part) :
    part.journal.persisted = rows.map Row.size := by
  unfold Journal.persisted
  rw [h.states, List.filterMap_append, h.ends.persisted, List.append_nil]
  induction rows.map Row.size with
  | nil => rfl
  | cons size sizes ih =>
    rw [List.flatMap_cons, List.filterMap_append, ih, List.filterMap_append, persisted_phases]
    rfl

end Recorded

/-! ### Runs over one file -/

/-- One of the runs over a results file. -/
structure Turn (W : Type) where
  experiment : Experiment
  bench : Bench W

/-- A turn keeps to a results file and its metrics. -/
structure Turn.On {W : Type} (turn : Turn W) (results : W → Spot) (metrics : List Metric) :
    Prop where
  isolated : turn.bench.Isolated
  results : turn.bench.results = results
  metrics : turn.experiment.metrics = metrics

/-- What a run with some sizes adds to the rows `before`: new ones of the sizes that it records,
behind them. -/
structure Adds {W : Type} (columns : List String) (sizes : List UInt64) (before new : List Row)
    (after : Spot) (part : Part W (Except Halt Report)) : Prop where
  read : ∃ bytes, after = .content bytes ∧ Table.ofBytes bytes = .ok ⟨columns, before ++ new⟩
  recorded : new.map Row.size = part.journal.persisted
  nodup : ((before ++ new).map Row.size).Nodup
  complete : part.result.isOk = true → ∀ size ∈ sizes, size ∈ (before ++ new).map Row.size

/-- Rows with a value for each column, and one row for a size. -/
structure Kept (columns : List String) (rows : List Row) : Prop where
  width : ∀ row ∈ rows, row.values.length = columns.length
  nodup : (rows.map Row.size).Nodup

section History

variable {W : Type}

/-- Runs that resume the file, one after another. -/
def resumed : List (Turn W) → W → List (Turn W × Part W (Except Halt Report))
  | [], _ => []
  | turn :: later, w =>
    let part := run turn.bench (turn.experiment.inMode .resume) w
    (turn, part) :: resumed later part.world

/-- A fresh run and those that resume its file. -/
def history (first : Turn W) (later : List (Turn W)) (w : W) :
    List (Turn W × Part W (Except Halt Report)) :=
  let part := run first.bench (first.experiment.inMode .fresh) w
  (first, part) :: resumed later part.world

/-- Every run of a history adds to the rows that those before it left. -/
def AddsUp (results : W → Spot) (columns : List String) :
    List Row → List (Turn W × Part W (Except Halt Report)) → Prop
  | _, [] => True
  | before, (turn, part) :: later =>
    ∃ new, Adds columns turn.experiment.sizes before new (results part.world) part ∧
      AddsUp results columns (before ++ new) later

section Step

variable {bench : Bench W} {e : Experiment} {before new : List Row} {last : List State}
  {part : Part W (Except Halt Report)} {columns : List String} {spot : Spot}

/-- The rows of a run are new to the rows that it found. -/
lemma Trailed.kept {opened : Bytes}
    (h : Trailed bench e opened (before.map Row.size) new last part)
    (hcolumns : e.columns = columns) (hbefore : Kept columns before) :
    Kept columns (before ++ new) where
  width := by
    have hwidth : ∀ row ∈ new, row.values.length = columns.length := by
      simpa [← hcolumns, Experiment.columns] using h.width
    exact List.forall_mem_append.2 ⟨hbefore.width, hwidth⟩
  nodup := by
    have hstart := h.ends.prefix_todo
    have hnew : (new.map Row.size).Nodup :=
      (Sweep.nodup_of_pairwise (pairwise_todo e _)).sublist hstart.sublist
    rw [List.map_append, List.nodup_append]
    refine ⟨hbefore.nodup, hnew, ?_⟩
    rintro size hsize _ hmem rfl
    exact (mem_todo.1 (hstart.subset hmem)).2 hsize

lemma Kept.adds {sizes : List UInt64} (h : Kept columns (before ++ new))
    (hlegible : ∀ column ∈ columns, Legible column)
    (hfile : spot = .content (Store.contents columns (before ++ new)))
    (hrecorded : part.journal.persisted = new.map Row.size)
    (hcomplete : part.result.isOk = true → ∀ size ∈ sizes, size ∈ (before ++ new).map Row.size) :
    Adds columns sizes (before.map Row.canonical) (new.map Row.canonical) spot part where
  read := by
    rw [← List.map_append]
    exact ⟨_, hfile, Store.ofBytes_contents hlegible h.width⟩
  recorded := by rw [Store.sizes_canonical, hrecorded]
  nodup := by
    rw [← List.map_append, Store.sizes_canonical]
    exact h.nodup
  complete := by
    rw [← List.map_append, Store.sizes_canonical]
    exact hcomplete

/-- A run that found some rows adds those that it records. -/
lemma Trailed.adds
    (h : Trailed bench e (Store.contents columns before) (before.map Row.size) new last part)
    (hcolumns : e.columns = columns) (hlegible : ∀ column ∈ columns, Legible column)
    (hbefore : Kept columns before) :
    Kept columns (before ++ new) ∧
      bench.results part.world = .content (Store.contents columns (before ++ new)) ∧
      Adds columns e.sizes (before.map Row.canonical) (new.map Row.canonical)
        (bench.results part.world) part := by
  have hkept := h.kept hcolumns hbefore
  have hfile : bench.results part.world = .content (Store.contents columns (before ++ new)) := by
    rw [h.file, Store.contents_append]
  refine ⟨hkept, hfile, hkept.adds hlegible hfile h.persisted fun hok size hsize => ?_⟩
  rw [List.map_append, List.mem_append, h.ends.sizes_of_isOk hok]
  by_cases hmem : size ∈ before.map Row.size
  · exact Or.inl hmem
  · exact Or.inr (mem_todo.2 ⟨hsize, hmem⟩)

end Step

section Histories

variable {results : W → Spot} {metrics : List Metric} {turn : Turn W} {w : W}
  {before : List Row}

lemma Turn.On.inMode_columns (h : turn.On results metrics) (mode : SweepMode) :
    (turn.experiment.inMode mode).columns = metrics.map Metric.column :=
  congrArg (List.map Metric.column) h.metrics

lemma adds_of_fresh (h : turn.On results metrics) (hplain : ∀ m ∈ metrics, Plain m.column)
    (hspot : ∀ fault, results w ≠ .blocked fault) (hbuild : (prepare turn.bench w).1 = .ok ()) :
    let part := run turn.bench (turn.experiment.inMode .fresh) w
    let columns := metrics.map Metric.column
    ∃ new, Kept columns new ∧ results part.world = .content (Store.contents columns new) ∧
      Adds columns turn.experiment.sizes [] (new.map Row.canonical) (results part.world) part := by
  intro part columns
  have hcolumns : (turn.experiment.inMode .fresh).columns = columns := h.inMode_columns _
  obtain ⟨hisolated, rfl, hmetrics⟩ := h
  have hlegible : ∀ column ∈ columns, Legible column := by
    simpa [columns] using fun m hm => (hplain m hm).legible
  have hopen := openStore_fresh (e := turn.experiment) hspot
  rw [show turn.experiment.columns = columns from hcolumns] at hopen
  obtain ⟨new, last, htrailed⟩ := run_trailed hisolated w hbuild hopen
  exact ⟨new, htrailed.adds hcolumns hlegible ⟨by simp, List.nodup_nil⟩⟩

/-- A run that resumes the file adds its rows, and if it cannot start it adds none. -/
lemma adds_of_resume (h : turn.On results metrics) (hplain : ∀ m ∈ metrics, Plain m.column)
    (hkept : Kept (metrics.map Metric.column) before)
    (hfile : results w = .content (Store.contents (metrics.map Metric.column) before)) :
    let part := run turn.bench (turn.experiment.inMode .resume) w
    let columns := metrics.map Metric.column
    ∃ new, Kept columns (before ++ new) ∧
      results part.world = .content (Store.contents columns (before ++ new)) ∧
      Adds columns turn.experiment.sizes (before.map Row.canonical) (new.map Row.canonical)
        (results part.world) part := by
  intro part columns
  have hcolumns : (turn.experiment.inMode .resume).columns = columns := h.inMode_columns _
  obtain ⟨hisolated, rfl, hmetrics⟩ := h
  have hlegible : ∀ m ∈ metrics, Legible m.column := fun m hm => (hplain m hm).legible
  rcases stays_or_trailed hisolated (turn.experiment.inMode .resume) w with
    ⟨cause, hstays⟩ | ⟨opened, skip, new, last, hopen, htrailed⟩
  · -- the rows of a run that cannot start are those that it found, and none
    have hsame := hstays.file.trans hfile
    rw [← List.append_nil before] at hsame hkept
    refine ⟨[], hkept, hsame, hkept.adds (by simpa [columns] using hlegible) hsame ?_ ?_⟩
    · unfold Journal.persisted
      rw [hstays.transitions]
      rfl
    · intro hok
      rw [hstays.result] at hok
      cases hok
  · have hresume : (Store.forMetrics turn.experiment.results metrics).resume
        (.content (Store.contents columns before)) =
          .ok (Store.contents columns before, before.map Row.size) :=
      Store.resume_contents hlegible (by simpa using hkept.width)
    rw [hfile] at hopen
    have hsame : (Store.forMetrics turn.experiment.results turn.experiment.metrics).resume
        (.content (Store.contents columns before)) = .ok (opened, skip) := hopen
    rw [hmetrics, hresume] at hsame
    obtain ⟨rfl, rfl⟩ := Prod.mk.inj (Except.ok.inj hsame)
    exact ⟨new, htrailed.adds hcolumns (by simpa [columns] using hlegible) hkept⟩

lemma addsUp_resumed {later : List (Turn W)} (hturns : ∀ turn ∈ later, turn.On results metrics)
    (hplain : ∀ m ∈ metrics, Plain m.column)
    (hkept : Kept (metrics.map Metric.column) before)
    (hfile : results w = .content (Store.contents (metrics.map Metric.column) before)) :
    AddsUp results (metrics.map Metric.column) (before.map Row.canonical) (resumed later w) := by
  -- what a turn leaves is again a file of kept rows, so the next one can resume it
  induction later generalizing w before with
  | nil => trivial
  | cons turn later ih =>
    obtain ⟨hturn, hlater⟩ := List.forall_mem_cons.1 hturns
    obtain ⟨new, hkept', hfile', hadds⟩ := adds_of_resume hturn hplain hkept hfile
    refine ⟨new.map Row.canonical, hadds, ?_⟩
    rw [← List.map_append]
    exact ih hlater hkept' hfile'

end Histories

/-- **No size is recorded twice.**  A fresh run and any runs that resume its file, each with sizes,
repetitions and surroundings of its own, add up: after each of them the file is read as the rows
that were there, none for a fresh run, and behind them one row for each size that the run
recorded; no size has two rows; and after a run that completes every one of its sizes has one. -/
theorem history_addsUp (results : W → Spot) (metrics : List Metric) (first : Turn W)
    (later : List (Turn W)) (w : W) (hturns : ∀ turn ∈ first :: later, turn.On results metrics)
    (hplain : ∀ m ∈ metrics, Plain m.column) (hspot : ∀ fault, results w ≠ .blocked fault)
    (hbuild : (prepare first.bench w).1 = .ok ()) :
    AddsUp results (metrics.map Metric.column) [] (history first later w) := by
  obtain ⟨hfirst, hlater⟩ := List.forall_mem_cons.1 hturns
  obtain ⟨new, hkept, hfile, hadds⟩ := adds_of_fresh hfirst hplain hspot hbuild
  exact ⟨new.map Row.canonical, hadds, addsUp_resumed hlater hplain hkept hfile⟩

/-- Other sizes of the same metrics as `twoSizes`, one of them shared, with one trial each. -/
def threeSizes : Experiment :=
  { twoSizes with
    sizes := [4, 8, 32]
    repetitions := 1
    sizes_ok := by decide
    repetitions_ne_zero := Nat.one_ne_zero }

/-- A run that halts at its second size, and one over other sizes that resumes it. -/
theorem history_addsUp_overlapping :
    let halting : Responses := fun calls _ =>
      if calls.length = 2 then .error (.spawn "m" "gone") else .ok "mean: 1"
    AddsUp Desk.file ["ns"] []
      (history ⟨twoSizes, Desk.bench halting none⟩
        [⟨threeSizes, Desk.bench (fun _ _ => .ok "mean: 2") none⟩] ⟨.missing, []⟩) := by
  intro halting
  refine history_addsUp Desk.file [⟨"ns", "mean"⟩] _ _ _ ?_ (by decide) (by simp) rfl
  simp only [List.forall_mem_cons, List.not_mem_nil, false_implies, implies_true, and_true]
  exact ⟨⟨Desk.isolated halting none, rfl, rfl⟩,
    ⟨Desk.isolated (fun _ _ => .ok "mean: 2") none, rfl, rfl⟩⟩

end History

end SizeSweep.Experiment
