import SizeSweep.Proofs.Experiment.Course

/-!
How far a run comes.  Whatever course it takes, a run that opens its results file measures the
first of the sizes to be measured, adds their rows, and halts at one of the others, if at all; and
a run that does not open the file leaves the desk as it is.
-/

namespace SizeSweep.Experiment

variable {e : Experiment} {respond : Responses} {opened : Bytes}
  {skip calls sizes : List UInt64} {rows : List Row} {o : Outcome}

/-! ### Calls and rows of a series -/

lemma mem_of_mem_allCalls {size : UInt64} (h : size ∈ e.allCalls sizes) :
    size ∈ sizes := by
  obtain ⟨s, hs, hsize⟩ := List.mem_flatMap.1 h
  exact List.eq_of_mem_replicate hsize ▸ hs

lemma Series.forall₂ (h : Series e respond calls sizes rows) :
    List.Forall₂ (fun row size => row.values.length = e.metrics.length ∧ row.size = size)
      rows sizes := by
  induction sizes generalizing calls rows with
  | nil =>
    rcases rows with _ | ⟨row, rows⟩
    · exact .nil
    · exact h.elim
  | cons size sizes ih =>
    rcases rows with _ | ⟨row, rows⟩
    · exact h.elim
    · obtain ⟨hrow, hrows⟩ := h
      have hwidth := hrow.width
      obtain ⟨outputs, -, -, hsize, -⟩ := hrow
      exact .cons ⟨hwidth, hsize⟩ (ih hrows)

lemma Series.sizes_eq (h : Series e respond calls sizes rows) : rows.map Row.size = sizes := by
  rw [← List.forall₂_eq_eq_eq, List.forall₂_map_left_iff]
  exact h.forall₂.imp fun _ _ hrow => hrow.2

lemma Series.width (h : Series e respond calls sizes rows) :
    ∀ row ∈ rows, row.values.length = e.metrics.length :=
  ((List.forall₂_and_left _ _).1 h.forall₂).1

/-! ### Progress -/

/-- The sizes `before` are measured, their rows are at the end of the file, and the last calls, if
any, were for one of the sizes `after`. -/
structure Progress (e : Experiment) (respond : Responses) (opened : Bytes)
    (skip before after : List UInt64) (rows : List Row) (o : Outcome) : Prop where
  sizes : e.todo skip = before ++ after
  series : Series e respond [] before rows
  file : o.file = .content (opened ++ rows.flatMap Store.rowLine)
  calls : ∃ last, o.calls = e.allCalls before ++ last ∧ ∀ size ∈ last, size ∈ after
  result : (o.result = .ok (before, e.sizes.filter skip.contains) ∧ after = []) ∨
    ∃ size ∈ after, ∃ cause, o.result = .error ⟨some size, cause⟩

lemma progress_of_halt {before after : List UInt64} {size : UInt64} (n : ℕ) (cause : Fault)
    (state : State) (hsizes : e.todo skip = before ++ size :: after)
    (hbefore : Series e respond [] before rows) :
    Progress e respond opened skip before (size :: after) rows
      ⟨.error ⟨some size, cause⟩, e.allCalls before ++ List.replicate n size, state,
        .content (opened ++ rows.flatMap Store.rowLine)⟩ where
  sizes := hsizes
  series := hbefore
  file := rfl
  calls := by
    refine ⟨List.replicate n size, rfl, fun s hs => ?_⟩
    obtain rfl := List.eq_of_mem_replicate hs
    exact List.mem_cons_self ..
  result := Or.inr ⟨size, List.mem_cons_self .., cause, rfl⟩

lemma Course.progress (h : Course e respond opened skip o) :
    ∃ before after rows, Progress e respond opened skip before after rows o := by
  cases h with
  | trial hsizes hbefore => exact ⟨_, _, _, progress_of_halt _ _ _ hsizes hbefore⟩
  | sample hsizes hbefore => exact ⟨_, _, _, progress_of_halt _ _ _ hsizes hbefore⟩
  | complete hall =>
    exact ⟨e.todo skip, [], _, (List.append_nil _).symm, hall, rfl,
      ⟨[], (List.append_nil _).symm, by simp⟩, Or.inl ⟨rfl, rfl⟩⟩

/-- A run that opens its results file makes some progress. -/
lemma exists_progress (respond : Responses) {build : Option (Except Build.Fault Unit)}
    {spot : Spot} (hbuild : ∀ fault, build ≠ some (.error fault))
    (hopen : e.openStore e.store spot = .ok (opened, skip)) :
    ∃ before after rows, Progress e respond opened skip before after rows
      (outcome (run (Desk.bench respond build) e ⟨spot, []⟩)) := by
  obtain ⟨o, hcourse⟩ := exists_course e respond opened skip
  rw [run_eq_sweep build hbuild, ← outcome_of_course build hcourse hopen]
  exact hcourse.progress

section Progress

variable {before after : List UInt64} {part : Part Desk (Except Halt Report)}

lemma Progress.mem_todo_of_call (h : Progress e respond opened skip before after rows o) :
    ∀ size ∈ o.calls, size ∈ e.todo skip := by
  obtain ⟨last, hcalls, hlast⟩ := h.calls
  intro size hsize
  rw [h.sizes]
  rw [hcalls] at hsize
  rcases List.mem_append.1 hsize with hmem | hmem
  · exact List.mem_append_left after (mem_of_mem_allCalls hmem)
  · exact List.mem_append_right before (hlast size hmem)

/-- A complete run has measured all the sizes. -/
lemma Progress.of_ok {report : Report}
    (h : Progress e respond opened skip before after rows (outcome part))
    (hok : part.result = .ok report) :
    report.persisted = before ∧ report.skipped = e.sizes.filter skip.contains ∧ after = [] := by
  have houtcome : (outcome part).result = .ok (report.persisted, report.skipped) := by
    simp only [outcome, hok, Except.map]
  rcases h.result with ⟨hresult, hafter⟩ | ⟨size, -, cause, hresult⟩
  · obtain ⟨hpersisted, hskipped⟩ := Prod.mk.inj (Except.ok.inj (houtcome.symm.trans hresult))
    exact ⟨hpersisted, hskipped, hafter⟩
  · rw [houtcome] at hresult
    cases hresult

lemma Progress.of_error {halt : Halt}
    (h : Progress e respond opened skip before after rows (outcome part))
    (herror : part.result = .error halt) : ∃ size ∈ after, halt.size = some size := by
  have houtcome : (outcome part).result = .error halt := by simp only [outcome, herror, Except.map]
  rcases h.result with ⟨hresult, -⟩ | ⟨size, hsize, cause, hresult⟩
  · rw [houtcome] at hresult
    cases hresult
  · obtain rfl := Except.error.inj (houtcome.symm.trans hresult)
    exact ⟨size, hsize, rfl⟩

end Progress

/-! ### Runs that cannot start -/

/-- What a run that could not start leaves behind: no size, no call, and the same file. -/
def Unstarted (spot : Spot) (part : Part Desk (Except Halt Report)) : Prop :=
  (∃ fault, part.result = .error ⟨none, fault⟩) ∧ part.world = ⟨spot, []⟩

lemma unstarted_of_openStore {fault : Store.Fault} {spot : Spot} (respond : Responses)
    (build : Option (Except Build.Fault Unit))
    (hopen : e.openStore e.store spot = .error fault) :
    Unstarted spot (run (Desk.bench respond build) e ⟨spot, []⟩) := by
  have hsweep : sweep (Desk.bench respond build) e ⟨spot, []⟩ =
      ⟨.error ⟨none, .store fault⟩, {}, ⟨spot, []⟩⟩ := by
    unfold sweep
    rw [show Store.forMetrics e.results e.metrics = e.store from rfl,
      show (Desk.bench respond build).results ⟨spot, []⟩ = spot from rfl]
    simp only [hopen]
  rcases build with _ | (failed | _)
  · exact ⟨⟨_, congrArg Part.result hsweep⟩, congrArg Part.world hsweep⟩
  · exact ⟨⟨_, rfl⟩, rfl⟩
  · exact ⟨⟨_, congrArg Part.result hsweep⟩, congrArg Part.world hsweep⟩

/-- A run cannot start, or its build succeeds and it opens its results file. -/
lemma unstarted_or_opens (e : Experiment) (respond : Responses)
    (build : Option (Except Build.Fault Unit)) (spot : Spot) :
    Unstarted spot (run (Desk.bench respond build) e ⟨spot, []⟩) ∨
      (∀ fault, build ≠ some (.error fault)) ∧
        ∃ opened skip, e.openStore e.store spot = .ok (opened, skip) := by
  by_cases hbuild : ∃ fault, build = some (.error fault)
  · obtain ⟨fault, rfl⟩ := hbuild
    exact Or.inl ⟨⟨_, rfl⟩, rfl⟩
  · rcases hopen : e.openStore e.store spot with fault | ⟨opened, skip⟩
    · exact Or.inl (unstarted_of_openStore respond build hopen)
    · exact Or.inr ⟨not_exists.1 hbuild, opened, skip, rfl⟩

end SizeSweep.Experiment
