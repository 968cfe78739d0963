import SizeSweep.Proofs.Experiment.Progress

/-!
Halting and resuming.  Every run over a results file adds rows that an uninterrupted run would have
added as well, and it adds them in the order of the sizes; so once a run of a chain completes, the
file is the one of a single uninterrupted run, and resuming it again does nothing.
-/

namespace SizeSweep.Experiment

/-! ### Interrupted executors -/

/-- An executor that gives `out size j` in trial `j` of a size, unless the call is to fail. -/
def interrupted (out : UInt64 → ℕ → String) (fails : List UInt64 → UInt64 → Option Trial.Fault) :
    Responses := fun calls size =>
  match fails calls size with
  | some fault => .error fault
  | none => .ok (out size (calls.count size))

/-- An executor that never fails. -/
def uninterrupted (out : UInt64 → ℕ → String) : Responses := interrupted out fun _ _ => none

/-- The row of a size from the outputs of all its trials. -/
def Clean (e : Experiment) (out : UInt64 → ℕ → String) (row : Row) : Prop :=
  row.values.map some = e.metrics.map fun m =>
    median? (SampleSet.samplesIn m ((List.range e.repetitions).map (out row.size)))

section Clean

variable {e : Experiment} {out : UInt64 → ℕ → String}
  {fails : List UInt64 → UInt64 → Option Trial.Fault} {calls sizes : List UInt64} {size : UInt64}
  {row : Row} {rows : List Row}

lemma Clean.width (h : Clean e out row) : row.values.length = e.metrics.length := by
  simpa using congrArg List.length h

/-- What a measured size reports does not depend on which calls failed before. -/
lemma clean_of_measured (h : Measured e (interrupted out fails) calls size row)
    (hnew : size ∉ calls) : row.size = size ∧ Clean e out row := by
  obtain ⟨outputs, hlength, hanswered, rfl, hvalues⟩ := h
  have houtputs : outputs = (List.range e.repetitions).map (out row.size) := by
    refine List.ext_getElem (by simpa using hlength) fun j hj hj' => ?_
    have h := hanswered j hj
    unfold interrupted at h
    split at h
    · cases h
    · rw [List.count_append, List.count_eq_zero_of_not_mem hnew, List.count_replicate_self,
        Nat.zero_add] at h
      simpa using (Except.ok.inj h).symm
  refine ⟨rfl, ?_⟩
  unfold Clean
  rw [hvalues, houtputs]

lemma measured_of_clean (h : Clean e out row) (hnew : row.size ∉ calls) :
    Measured e (uninterrupted out) calls row.size row := by
  refine ⟨(List.range e.repetitions).map (out row.size), by simp, fun j hj => ?_, rfl, h⟩
  unfold uninterrupted interrupted
  simp [List.count_append, List.count_eq_zero_of_not_mem hnew]

/-- The calls of a size are new to the sizes behind it. -/
lemma not_mem_calls {n : ℕ} (hnodup : (size :: sizes).Nodup)
    (hnew : ∀ s ∈ size :: sizes, s ∉ calls) : ∀ s ∈ sizes, s ∉ calls ++ List.replicate n size := by
  intro s hs hmem
  rcases List.mem_append.1 hmem with hmem | hmem
  · exact hnew s (List.mem_cons_of_mem _ hs) hmem
  · obtain rfl := List.eq_of_mem_replicate hmem
    exact (List.nodup_cons.1 hnodup).1 hs

lemma clean_of_series (h : Series e (interrupted out fails) calls sizes rows)
    (hnodup : sizes.Nodup) (hnew : ∀ size ∈ sizes, size ∉ calls) :
    rows.map Row.size = sizes ∧ ∀ row ∈ rows, Clean e out row := by
  induction sizes generalizing calls rows with
  | nil =>
    rcases rows with _ | ⟨row, rows⟩
    · exact ⟨rfl, by simp⟩
    · exact h.elim
  | cons size sizes ih =>
    rcases rows with _ | ⟨row, rows⟩
    · exact h.elim
    · obtain ⟨hrow, hrows⟩ := h
      obtain ⟨hsize, hclean⟩ := clean_of_measured hrow (hnew size (List.mem_cons_self ..))
      obtain ⟨hsizes, hcleans⟩ := ih hrows (List.nodup_cons.1 hnodup).2 (not_mem_calls hnodup hnew)
      exact ⟨by rw [List.map_cons, hsize, hsizes], List.forall_mem_cons.2 ⟨hclean, hcleans⟩⟩

lemma series_of_clean (h : ∀ row ∈ rows, Clean e out row) (hnodup : (rows.map Row.size).Nodup)
    (hnew : ∀ size ∈ rows.map Row.size, size ∉ calls) :
    Series e (uninterrupted out) calls (rows.map Row.size) rows := by
  induction rows generalizing calls with
  | nil => trivial
  | cons row rows ih =>
    obtain ⟨hrow, hrows⟩ := List.forall_mem_cons.1 h
    rw [List.map_cons] at hnodup hnew
    exact ⟨measured_of_clean hrow (hnew row.size (List.mem_cons_self ..)),
      ih hrows (List.nodup_cons.1 hnodup).2 (not_mem_calls hnodup hnew)⟩

end Clean

/-! ### One run -/

/-- The columns of an experiment. -/
def columns (e : Experiment) : List String := e.metrics.map Metric.column

/-- A results file that holds the clean rows of some sizes, the first of the experiment. -/
structure Begun (e : Experiment) (out : UInt64 → ℕ → String) (rows : List Row) : Prop where
  sizes : rows.map Row.size <+: e.sizes
  clean : ∀ row ∈ rows, Clean e out row

section Run

variable {e : Experiment} {out : UInt64 → ℕ → String}
  {fails : List UInt64 → UInt64 → Option Trial.Fault} {rows : List Row} {spot : Spot}

lemma nodup_sizes (e : Experiment) : e.sizes.Nodup :=
  Sweep.nodup_of_pairwise (Sweep.check_eq_ok_iff.1 e.sizes_ok).2.2

/-- Behind the first sizes all sizes are to be measured. -/
lemma todo_of_first {sizes : List UInt64} (h : sizes <+: e.sizes) :
    e.sizes = sizes ++ e.todo sizes := by
  obtain ⟨rest, hrest⟩ := h
  have hnodup : (sizes ++ rest).Nodup := hrest ▸ nodup_sizes e
  have htodo : e.todo sizes = rest := by
    unfold todo
    rw [← hrest, List.filter_append]
    have hdone : sizes.filter (fun size => !sizes.contains size) = [] := by
      rw [List.filter_eq_nil_iff]
      intro size hsize
      simpa using hsize
    have hkeep : rest.filter (fun size => !sizes.contains size) = rest := by
      rw [List.filter_eq_self]
      intro size hsize
      have hne : size ∉ sizes :=
        fun hmem => (List.nodup_append.1 hnodup).2.2 size hmem size hsize rfl
      simpa using hne
    rw [hdone, hkeep, List.nil_append]
  rw [htodo, hrest]

lemma todo_of_begun (h : Begun e out rows) :
    e.sizes = rows.map Row.size ++ e.todo (rows.map Row.size) := todo_of_first h.sizes

/-- The rows of a course go on where the file ends. -/
lemma begun_append (h : Begun e out rows) {before after : List UInt64} {more : List Row}
    (hsizes : e.todo (rows.map Row.size) = before ++ after)
    (hmore : Series e (interrupted out fails) [] before more) :
    Begun e out (rows ++ more) ∧ more.map Row.size = before := by
  have hall := todo_of_begun h
  rw [hsizes] at hall
  have hnodup : before.Nodup := by
    have h := nodup_sizes e
    rw [hall] at h
    exact (List.nodup_append.1 (List.nodup_append.1 h).2.1).1
  obtain ⟨hmap, hclean⟩ := clean_of_series hmore hnodup (by simp)
  refine ⟨⟨⟨after, ?_⟩, ?_⟩, hmap⟩
  · rw [List.map_append, hmap, List.append_assoc, ← hall]
  · exact List.forall_mem_append.2 ⟨h.clean, hclean⟩

/-- What a run leaves behind: the rows of the first sizes, and of all sizes if it completed. -/
def Leaves (e : Experiment) (out : UInt64 → ℕ → String) (part : Part Desk (Except Halt Report)) :
    Prop :=
  ∃ rows, part.world.file = .content (Store.contents e.columns rows) ∧ Begun e out rows ∧
    (part.result.isOk = true → rows.map Row.size = e.sizes)

/-- A sweep that finds the rows of the first sizes adds those of the next ones. -/
lemma leaves_of_sweep (build : Option (Except Build.Fault Unit)) (hbegun : Begun e out rows)
    (hopen : e.openStore e.store spot =
      .ok (Store.contents e.columns rows, rows.map Row.size)) :
    Leaves e out (sweep (Desk.bench (interrupted out fails) build) e ⟨spot, []⟩) := by
  obtain ⟨o, hcourse⟩ := exists_course e (interrupted out fails)
    (Store.contents e.columns rows) (rows.map Row.size)
  obtain ⟨before, after, more, hprogress⟩ := hcourse.progress
  rw [outcome_of_course build hcourse hopen] at hprogress
  obtain ⟨hall, hmap⟩ := begun_append hbegun hprogress.sizes hprogress.series
  refine ⟨rows ++ more, ?_, hall, fun hok => ?_⟩
  · rw [Store.contents_append]
    exact hprogress.file
  · generalize sweep (Desk.bench (interrupted out fails) build) e ⟨spot, []⟩ = part
      at hprogress hok
    rcases hresult : part.result with halt | report
    · rw [hresult] at hok
      cases hok
    · obtain ⟨-, -, rfl⟩ := hprogress.of_ok hresult
      have hsizes := hprogress.sizes
      rw [List.append_nil] at hsizes
      rw [List.map_append, hmap, ← hsizes, ← todo_of_begun hbegun]

end Run

/-! ### Chains of runs -/

/-- One run of a chain: which of its calls fail, and the result of its build, if there is one. -/
structure Attempt where
  fails : List UInt64 → UInt64 → Option Trial.Fault
  build : Option (Except Build.Fault Unit) := none

/-- The same experiment with another use of an earlier results file. -/
def inMode (e : Experiment) (mode : SweepMode) : Experiment := { e with mode }

/-- A run over what the results path holds. -/
def attempt (e : Experiment) (out : UInt64 → ℕ → String) (mode : SweepMode) (a : Attempt)
    (spot : Spot) : Part Desk (Except Halt Report) :=
  run (Desk.bench (interrupted out a.fails) a.build) (e.inMode mode) ⟨spot, []⟩

/-- A fresh run and the runs that resume it, one after another over one results file.  Gives the
last of them. -/
def chain (e : Experiment) (out : UInt64 → ℕ → String) (first : Attempt) (later : List Attempt)
    (spot : Spot) : Part Desk (Except Halt Report) :=
  later.foldl (fun part a => attempt e out .resume a part.world.file)
    (attempt e out .fresh first spot)

section Chains

variable {e : Experiment} {out : UInt64 → ℕ → String} {rows : List Row} {spot : Spot}

lemma Begun.inMode (h : Begun e out rows) (mode : SweepMode) : Begun (e.inMode mode) out rows :=
  ⟨h.sizes, h.clean⟩

lemma Leaves.ofMode {mode : SweepMode} {part : Part Desk (Except Halt Report)}
    (h : Leaves (e.inMode mode) out part) : Leaves e out part := by
  obtain ⟨rows, hfile, hbegun, hall⟩ := h
  exact ⟨rows, hfile, ⟨hbegun.sizes, hbegun.clean⟩, hall⟩

lemma Begun.openStore_resume (h : Begun e out rows) (hplain : ∀ m ∈ e.metrics, Plain m.column) :
    (e.inMode .resume).openStore e.store (.content (Store.contents e.columns rows)) =
      .ok (Store.contents e.columns rows, rows.map Row.size) :=
  Store.resume_contents (fun m hm => (hplain m hm).legible) fun row hrow => (h.clean row hrow).width

lemma openStore_fresh (hspot : ∀ fault, spot ≠ .blocked fault) :
    (e.inMode .fresh).openStore e.store spot = .ok (Store.contents e.columns [], []) := by
  have hfresh : e.store.fresh spot = .ok (Csv.line (Metric.sizeColumn :: e.columns)) :=
    Store.fresh_eq hspot
  unfold openStore
  simp only [inMode, hfresh, Except.map, Store.contents, List.flatMap_nil, List.append_nil]

lemma leaves_of_fresh (a : Attempt) (hspot : ∀ fault, spot ≠ .blocked fault)
    (hbuild : ∀ fault, a.build ≠ some (.error fault)) :
    Leaves e out (attempt e out .fresh a spot) := by
  have hbegun : Begun (e.inMode .fresh) out [] := ⟨List.nil_prefix, by simp⟩
  unfold attempt
  rw [run_eq_sweep a.build hbuild]
  exact (leaves_of_sweep a.build hbegun (openStore_fresh hspot)).ofMode

/-- A run that resumes goes on behind the rows that are there, also if its build fails. -/
lemma leaves_of_resume (a : Attempt) (hplain : ∀ m ∈ e.metrics, Plain m.column)
    {part : Part Desk (Except Halt Report)} (h : Leaves e out part) :
    Leaves e out (attempt e out .resume a part.world.file) := by
  obtain ⟨rows, hfile, hbegun, -⟩ := h
  rw [hfile]
  unfold attempt
  by_cases hbuild : ∃ fault, a.build = some (.error fault)
  · obtain ⟨fault, hfault⟩ := hbuild
    exact ⟨rows, by rw [hfault]; rfl, hbegun, fun hok => by rw [hfault] at hok; cases hok⟩
  · rw [run_eq_sweep a.build (not_exists.1 hbuild)]
    exact (leaves_of_sweep a.build (hbegun.inMode .resume)
      (hbegun.openStore_resume hplain)).ofMode

/-- All runs of a chain leave rows of the first sizes. -/
lemma leaves_of_chain (out : UInt64 → ℕ → String) (first : Attempt) (later : List Attempt)
    (hplain : ∀ m ∈ e.metrics, Plain m.column) (hspot : ∀ fault, spot ≠ .blocked fault)
    (hbuild : ∀ fault, first.build ≠ some (.error fault)) :
    Leaves e out (chain e out first later spot) := by
  have hfirst : Leaves e out (attempt e out .fresh first spot) := leaves_of_fresh first hspot hbuild
  unfold chain
  generalize attempt e out .fresh first spot = part at hfirst
  induction later generalizing part with
  | nil => exact hfirst
  | cons a later ih => exact ih _ (leaves_of_resume a hplain hfirst)

/-- An uninterrupted run writes the clean rows of all sizes. -/
lemma file_of_uninterrupted (hspot : ∀ fault, spot ≠ .blocked fault) (hbegun : Begun e out rows)
    (hall : rows.map Row.size = e.sizes) :
    (run (Desk.bench (uninterrupted out) none) (e.inMode .fresh) ⟨spot, []⟩).world.file =
      .content (Store.contents e.columns rows) := by
  have hseries : Series (e.inMode .fresh) (uninterrupted out) [] ((e.inMode .fresh).todo []) rows := by
    have htodo : (e.inMode .fresh).todo [] = rows.map Row.size := by
      rw [hall]
      simp [todo, inMode]
    rw [htodo]
    exact series_of_clean hbegun.clean (hall ▸ nodup_sizes e) (by simp)
  have hcourse : Course (e.inMode .fresh) (uninterrupted out) (Store.contents e.columns []) [] _ :=
    .complete hseries
  have houtcome := outcome_of_course none hcourse (openStore_fresh hspot)
  rw [run_eq_sweep none (by simp)]
  have hfile := congrArg Outcome.file houtcome
  rw [← Store.contents_append] at hfile
  exact hfile.symm

/-- A run that resumes a complete file does nothing. -/
lemma run_of_complete (respond : Responses) (build : Option (Except Build.Fault Unit))
    (hbuild : ∀ fault, build ≠ some (.error fault)) (hplain : ∀ m ∈ e.metrics, Plain m.column)
    (hbegun : Begun e out rows) (hall : rows.map Row.size = e.sizes) :
    let spot := Spot.content (Store.contents e.columns rows)
    let again := run (Desk.bench respond build) (e.inMode .resume) ⟨spot, []⟩
    again.result = .ok ⟨[], e.sizes, 0⟩ ∧ again.world = ⟨spot, []⟩ := by
  have htodo : (e.inMode .resume).todo (rows.map Row.size) = [] := by
    have h := todo_of_begun hbegun
    rw [hall] at h ⊢
    exact List.append_right_eq_self.1 h.symm
  have hskipped : (e.inMode .resume).sizes.filter (rows.map Row.size).contains = e.sizes := by
    rw [hall]
    exact List.filter_eq_self.2 fun size hsize => List.contains_iff_mem.2 hsize
  intro spot again
  have hagain : again = _ := (run_eq_sweep build hbuild _).trans
    (sweep_eq build (hbegun.openStore_resume hplain) [])
  rw [htodo] at hagain
  simp only [measureAll] at hagain
  rw [hagain, hskipped]
  exact ⟨rfl, rfl⟩

/-- **Halting and resuming is running through.**  However often the runs of a chain halt, once the
last of them completes the file is the one of a single uninterrupted run, and one more run that
resumes calls the executor for nothing, skips every size and leaves the file as it is. -/
theorem chain_eq_uninterrupted (e : Experiment) (out : UInt64 → ℕ → String) (first : Attempt)
    (later : List Attempt) (spot : Spot) (hplain : ∀ m ∈ e.metrics, Plain m.column)
    (hspot : ∀ fault, spot ≠ .blocked fault)
    (hbuild : ∀ fault, first.build ≠ some (.error fault))
    (hok : (chain e out first later spot).result.isOk = true) :
    let file := (chain e out first later spot).world.file
    file = (run (Desk.bench (uninterrupted out) none) (e.inMode .fresh) ⟨spot, []⟩).world.file ∧
    ∀ (respond : Responses) (build : Option (Except Build.Fault Unit)),
      (∀ fault, build ≠ some (.error fault)) →
      let again := run (Desk.bench respond build) (e.inMode .resume) ⟨file, []⟩
      again.result = .ok ⟨[], e.sizes, 0⟩ ∧ again.world = ⟨file, []⟩ := by
  obtain ⟨rows, hfile, hbegun, hcomplete⟩ :=
    leaves_of_chain out first later hplain hspot hbuild
  have hall := hcomplete hok
  intro file
  have hcontents : file = .content (Store.contents e.columns rows) := hfile
  refine ⟨hcontents.trans (file_of_uninterrupted hspot hbegun hall).symm, ?_⟩
  intro respond build hbuild
  rw [hcontents]
  exact run_of_complete respond build hbuild hplain hbegun hall

/-! ### Chains that complete -/

/-- Every trial output of every size, taken together, has a sample of each metric. -/
def Reported (e : Experiment) (out : UInt64 → ℕ → String) : Prop :=
  ∀ size ∈ e.sizes, ∀ m ∈ e.metrics,
    SampleSet.samplesIn m ((List.range e.repetitions).map (out size)) ≠ []

lemma exists_clean (h : Reported e out) (sizes : List UInt64) (hsizes : ∀ s ∈ sizes, s ∈ e.sizes) :
    ∃ rows : List Row, rows.map Row.size = sizes ∧ ∀ row ∈ rows, Clean e out row := by
  induction sizes with
  | nil => exact ⟨[], rfl, by simp⟩
  | cons size sizes ih =>
    obtain ⟨hsize, hrest⟩ := List.forall_mem_cons.1 hsizes
    obtain ⟨rows, hrows, hclean⟩ := ih hrest
    rcases SampleSet.medians_or_missing e.metrics ((List.range e.repetitions).map (out size)) with
      ⟨values, hvalues⟩ | ⟨passed, m, rest, hmetrics, -, hm⟩
    · exact ⟨⟨size, values⟩ :: rows, by rw [List.map_cons, hrows],
        List.forall_mem_cons.2 ⟨hvalues, hclean⟩⟩
    · exact absurd hm (h size hsize m (by simp [hmetrics]))

/-- A run that resumes completes if none of its calls fails. -/
lemma isOk_of_resume (hplain : ∀ m ∈ e.metrics, Plain m.column) (hreported : Reported e out)
    {part : Part Desk (Except Halt Report)} (h : Leaves e out part) :
    (attempt e out .resume ⟨fun _ _ => none, none⟩ part.world.file).result.isOk = true := by
  obtain ⟨rows, hfile, hbegun, -⟩ := h
  have hsizes := todo_of_begun hbegun
  obtain ⟨more, hmore, hclean⟩ := exists_clean hreported (e.todo (rows.map Row.size))
    fun s hs => List.mem_of_mem_filter hs
  have hnodup : (more.map Row.size).Nodup := by
    have h := nodup_sizes e
    rw [hsizes] at h
    rw [hmore]
    exact (List.nodup_append.1 h).2.1
  have hseries : Series (e.inMode .resume) (uninterrupted out) []
      ((e.inMode .resume).todo (rows.map Row.size)) more := by
    rw [show (e.inMode .resume).todo (rows.map Row.size) = more.map Row.size from hmore.symm]
    exact series_of_clean hclean hnodup (by simp)
  have hcourse : Course (e.inMode .resume) (uninterrupted out) (Store.contents e.columns rows)
      (rows.map Row.size) _ := .complete hseries
  have houtcome := outcome_of_course none hcourse (hbegun.openStore_resume hplain)
  unfold attempt
  rw [run_eq_sweep none (by simp), hfile]
  rw [← isOk_outcome]
  exact houtcome ▸ rfl

/-- **A chain completes** if its last run has no call that fails, and every size has a sample of
each metric. -/
theorem isOk_chain (e : Experiment) (out : UInt64 → ℕ → String) (first : Attempt)
    (later : List Attempt) (spot : Spot) (hplain : ∀ m ∈ e.metrics, Plain m.column)
    (hspot : ∀ fault, spot ≠ .blocked fault)
    (hbuild : ∀ fault, first.build ≠ some (.error fault)) (hreported : Reported e out) :
    (chain e out first (later ++ [⟨fun _ _ => none, none⟩]) spot).result.isOk = true := by
  have h := leaves_of_chain out first later hplain hspot hbuild
  unfold chain at h ⊢
  rw [List.foldl_append]
  exact isOk_of_resume hplain hreported h

/-- The third trial fails in the first run, and none in the second. -/
theorem chain_eq_uninterrupted_two_sizes :
    let out : UInt64 → ℕ → String := fun _ _ => "mean: 1"
    let fails : List UInt64 → UInt64 → Option Trial.Fault := fun calls _ =>
      if calls.length = 2 then some (.spawn "m" "gone") else none
    let file := (chain twoSizes out ⟨fails, none⟩ [⟨fun _ _ => none, none⟩] .missing).world.file
    let again := run (Desk.bench (fun _ _ => .ok "") none) (twoSizes.inMode .resume) ⟨file, []⟩
    file = (run (Desk.bench (uninterrupted out) none) (twoSizes.inMode .fresh)
        ⟨.missing, []⟩).world.file ∧
      again.result = .ok ⟨[], [8, 16], 0⟩ ∧ again.world = ⟨file, []⟩ := by
  intro out fails file again
  have hplain : ∀ m ∈ twoSizes.metrics, Plain m.column := by
    intro m hm
    obtain rfl := List.mem_singleton.1 hm
    decide
  have hreported : Reported twoSizes out := by
    intro size _ m hm
    obtain rfl := List.mem_singleton.1 hm
    decide +kernel
  have hok := isOk_chain twoSizes out ⟨fails, none⟩ [] .missing hplain (by simp) (by simp) hreported
  obtain ⟨hfile, hagain⟩ := chain_eq_uninterrupted twoSizes out ⟨fails, none⟩
    [⟨fun _ _ => none, none⟩] .missing hplain (by simp) (by simp) hok
  exact ⟨hfile, hagain (fun _ _ => .ok "") none (by simp)⟩

end Chains

end SizeSweep.Experiment
