import SizeSweep.Proofs.Experiment.Trail

/-!
The states of a run and the rows in its file.  A state says which of the sizes to be measured are
recorded; whenever a run enters a state, and when it ends, its file has just the rows of these.
-/

namespace SizeSweep.Experiment

/-! ### Recorded sizes -/

/-- The sizes to be measured that are recorded in a state. -/
def State.recorded (todo : List UInt64) : State → List UInt64
  | .notStarted => []
  | .running size _ | .aggregating size => todo.filter (· < size)
  | .persisted size => todo.filter (· ≤ size)
  | .complete => todo

section Recorded

variable {e : Experiment} {size : UInt64} {before after : List UInt64} {state : State}

lemma filter_split {p : UInt64 → Bool} (hbefore : ∀ s ∈ before, p s = true)
    (hafter : ∀ s ∈ after, p s = false) : (before ++ after).filter p = before := by
  rw [List.filter_append, List.filter_eq_self.2 hbefore,
    List.filter_eq_nil_iff.2 fun s hs => by simp [hafter s hs], List.append_nil]

lemma filter_lt_of_pairwise (h : (before ++ size :: after).Pairwise (· < ·)) :
    (before ++ size :: after).filter (· < size) = before := by
  obtain ⟨-, hcons, hbefore⟩ := List.pairwise_append.1 h
  refine filter_split (fun s hs => ?_) fun s hs => ?_
  · simpa using hbefore s hs size (List.mem_cons_self ..)
  · rcases List.mem_cons.1 hs with rfl | hs
    · simp
    · simpa using UInt64.le_of_lt (List.rel_of_pairwise_cons hcons hs)

lemma filter_le_of_pairwise (h : (before ++ size :: after).Pairwise (· < ·)) :
    (before ++ size :: after).filter (· ≤ size) = before ++ [size] := by
  obtain ⟨-, hcons, hbefore⟩ := List.pairwise_append.1 h
  rw [List.append_cons]
  refine filter_split (fun s hs => ?_) fun s hs => ?_
  · rcases List.mem_append.1 hs with hs | hs
    · simpa using UInt64.le_of_lt (hbefore s hs size (List.mem_cons_self ..))
    · simp [List.mem_singleton.1 hs]
  · simpa using List.rel_of_pairwise_cons hcons hs

lemma recorded_of_mem_phases (h : state ∈ e.phases size) (todo : List UInt64) :
    state.recorded todo = todo.filter (· < size) := by
  rcases mem_phases h with ⟨j, rfl⟩ | rfl <;> rfl

end Recorded

/-! ### States of a trail -/

section Trail

variable {e : Experiment} {size : UInt64} {cause : Fault} {states : List State}

lemma states_entered (spot : Spot) (states : List State) :
    (entered spot states).map Transition.state = states := by
  simp [entered, Function.comp_def]

lemma states_trail (e : Experiment) (bytes : Bytes) (rows : List Row) :
    (e.trail bytes rows).map Transition.state =
      (rows.map Row.size).flatMap fun size => e.phases size ++ [.persisted size] := by
  induction rows generalizing bytes with
  | nil => rfl
  | cons row rows ih =>
    rw [trail, List.map_append, states_entered, List.map_cons, ih, List.map_cons, List.flatMap_cons]
    simp

lemma Stops.prefix_phases (h : Stops e size cause states) : states <+: e.phases size := by
  cases h with
  | @trial fault done hdone =>
    have hrange : List.range (done + 1) <+: List.range e.repetitions := by
      rw [List.prefix_iff_eq_take, List.length_range, List.take_range, Nat.min_eq_left hdone]
    exact (hrange.map _).trans (List.prefix_append _ _)
  | sample => exact List.prefix_rfl

lemma Stops.ne_nil (h : Stops e size cause states) : states ≠ [] := by
  cases h with
  | trial => simp
  | sample => simp [phases]

end Trail

/-! ### Rows of a state -/

/-- On entering a state, the file of a run has those of its rows whose sizes are recorded then. -/
def Agrees (opened : Bytes) (todo : List UInt64) (rows : List Row) (t : Transition) : Prop :=
  ∃ added, added <+: rows ∧ added.map Row.size = t.state.recorded todo ∧
    t.results = .content (opened ++ added.flatMap Store.rowLine)

section Agrees

variable {e : Experiment} {opened : Bytes} {done rows : List Row} {row : Row}
  {after : List UInt64} {size : UInt64} {states : List State}

/-- While a size is measured, the file has the rows of the sizes before it. -/
lemma agrees_entered (hsorted : (done.map Row.size ++ size :: after).Pairwise (· < ·))
    (hdone : done <+: rows) (hstates : states ⊆ e.phases size) :
    ∀ t ∈ entered (.content (opened ++ done.flatMap Store.rowLine)) states,
      Agrees opened (done.map Row.size ++ size :: after) rows t := by
  intro t ht
  obtain ⟨state, hstate, rfl⟩ := List.mem_map.1 ht
  refine ⟨done, hdone, ?_, rfl⟩
  rw [recorded_of_mem_phases (hstates hstate), filter_lt_of_pairwise hsorted]

lemma agrees_persisted (hsorted : (done.map Row.size ++ row.size :: after).Pairwise (· < ·))
    (hdone : done ++ [row] <+: rows) :
    Agrees opened (done.map Row.size ++ row.size :: after) rows
      ⟨.persisted row.size, .content (opened ++ (done ++ [row]).flatMap Store.rowLine)⟩ := by
  refine ⟨done ++ [row], hdone, ?_, rfl⟩
  rw [State.recorded, filter_le_of_pairwise hsorted, List.map_append]
  rfl

/-- Behind the rows that are done, the file keeps up with the states. -/
lemma agrees_trail (e : Experiment) (opened : Bytes) (done rows : List Row)
    (after : List UInt64) (hsorted : ((done ++ rows).map Row.size ++ after).Pairwise (· < ·)) :
    ∀ t ∈ e.trail (opened ++ done.flatMap Store.rowLine) rows,
      Agrees opened ((done ++ rows).map Row.size ++ after) (done ++ rows) t := by
  induction rows generalizing done with
  | nil => simp [trail]
  | cons row rows ih =>
    have htodo : (done ++ row :: rows).map Row.size ++ after =
        done.map Row.size ++ row.size :: (rows.map Row.size ++ after) := by simp
    have hsplit : done ++ row :: rows = (done ++ [row]) ++ rows := List.append_cons ..
    have hgrown : opened ++ done.flatMap Store.rowLine ++ Store.rowLine row =
        opened ++ (done ++ [row]).flatMap Store.rowLine := by simp
    intro t ht
    rw [trail, hgrown] at ht
    rcases List.mem_append.1 ht with hphase | hrest
    · -- the phases of the first size, before its row is in the file
      rw [htodo] at hsorted ⊢
      exact agrees_entered hsorted (List.prefix_append ..) (List.Subset.refl _) t hphase
    · rcases List.mem_cons.1 hrest with rfl | hrest
      · rw [htodo] at hsorted ⊢
        exact agrees_persisted hsorted (hsplit ▸ List.prefix_append ..)
      · -- what follows, with the first row counted among those done
        rw [hsplit] at hsorted ⊢
        exact ih (done ++ [row]) hsorted t hrest

end Agrees

/-! ### Runs -/

/-- A run that opened its file is in step with it: its states are the first ones of its path, and
at each of them, the last one included, the file has the rows of the sizes recorded then, each in a
line that says its size and a value for each metric. -/
structure InStep {W : Type} (bench : Bench W) (e : Experiment) (opened : Bytes)
    (skip : List UInt64) (rows : List Row) (part : Part W (Except Halt Report)) : Prop where
  path : part.journal.transitions.map Transition.state <+: e.path (e.todo skip)
  completes : part.result.isOk = true ↔
    part.journal.transitions.map Transition.state = e.path (e.todo skip)
  agrees : ∀ t ∈ part.journal.transitions, Agrees opened (e.todo skip) rows t
  last : part.journal.transitions.getLast? =
    some ⟨part.journal.stateAfter .notStarted, bench.results part.world⟩
  file : bench.results part.world = .content (opened ++ rows.flatMap Store.rowLine)
  lines : ∀ row ∈ rows, row.values.length = e.metrics.length ∧
    Store.IsLineOf row (Store.rowLine row)
  halts : ∀ halt, part.result = .error halt →
    ∃ size ∈ e.todo skip, halt.size = some size ∧
      part.journal.stateAfter .notStarted ∈ e.phases size
  recorded : ∀ t ∈ part.journal.transitions, t.state = .complete →
    ∀ size ∈ e.sizes, size ∈ rows.map Row.size ∨ size ∈ skip

section Runs

variable {W : Type} {bench : Bench W} {e : Experiment} {opened : Bytes} {skip : List UInt64}
  {rows : List Row} {last : List State} {part : Part W (Except Halt Report)} {size : UInt64}

lemma mem_todo : size ∈ e.todo skip ↔ size ∈ e.sizes ∧ size ∉ skip := by
  simp [todo]

lemma complete_not_mem_phases : State.complete ∉ e.phases size := by
  simp [phases]

lemma Ends.ne_nil {result : Except Halt Report} (h : Ends e skip rows result last) :
    last ≠ [] := by
  cases h with
  | complete => simp
  | halt h hstops => exact hstops.ne_nil

lemma Trailed.states (h : Trailed bench e opened skip rows last part) :
    part.journal.transitions.map Transition.state =
      ((rows.map Row.size).flatMap fun size => e.phases size ++ [.persisted size]) ++ last := by
  rw [h.transitions, List.map_append, states_trail, states_entered]

/-- The last transition of a run shows its file at the end. -/
lemma Trailed.getLast? (h : Trailed bench e opened skip rows last part) :
    ∃ state, last.getLast? = some state ∧ part.journal.stateAfter .notStarted = state ∧
      part.journal.transitions.getLast? = some ⟨state, bench.results part.world⟩ := by
  obtain ⟨state, hstate⟩ := Option.isSome_iff_exists.1 (List.getLast?_isSome.2 h.ends.ne_nil)
  have hlast : part.journal.transitions.getLast? = some ⟨state, bench.results part.world⟩ := by
    rw [h.transitions, List.getLast?_append, entered, List.getLast?_map, hstate]
    rfl
  refine ⟨state, hstate, ?_, hlast⟩
  unfold Journal.stateAfter
  rw [hlast]

lemma Trailed.path (h : Trailed bench e opened skip rows last part) :
    part.journal.transitions.map Transition.state <+: e.path (e.todo skip) ∧
      (part.result.isOk = true ↔
        part.journal.transitions.map Transition.state = e.path (e.todo skip)) := by
  rw [h.states]
  have hends := h.ends
  generalize part.result = result at hends
  cases hends with
  | complete failures hsizes =>
    rw [hsizes, Experiment.path]
    exact ⟨List.prefix_rfl, iff_of_true rfl rfl⟩
  | @halt size after cause _ hsizes hstops =>
    have hnext : e.path (size :: after) =
        e.phases size ++ (.persisted size :: e.path after) := by simp [Experiment.path]
    rw [hsizes, path_append, hnext]
    constructor
    · rw [List.prefix_append_right_inj]
      exact hstops.prefix_phases.trans (List.prefix_append ..)
    · refine iff_of_false (by simp [Except.isOk, Except.toBool]) fun hsame => ?_
      -- a run that halts is still in the phases of a size, and its path ends elsewhere
      have hmem : State.complete ∈ last := by
        rw [List.append_cancel_left hsame]
        simp [Experiment.path]
      exact complete_not_mem_phases (hstops.prefix_phases.subset hmem)

lemma Trailed.agrees (h : Trailed bench e opened skip rows last part) :
    ∀ t ∈ part.journal.transitions, Agrees opened (e.todo skip) rows t := by
  have hsorted := pairwise_todo e skip
  have hends := h.ends
  rw [h.transitions, h.file]
  generalize part.result = result at hends
  cases hends with
  | complete failures hsizes =>
    have htrail := agrees_trail e opened [] rows [] (by simpa [hsizes] using hsorted)
    simp only [List.nil_append, List.append_nil, List.flatMap_nil, hsizes] at htrail
    intro t ht
    rcases List.mem_append.1 ht with ht | ht
    · exact htrail t ht
    · obtain rfl := List.mem_singleton.1 ht
      exact ⟨rows, List.prefix_rfl, hsizes, rfl⟩
  | @halt size after cause _ hsizes hstops =>
    rw [hsizes] at hsorted ⊢
    have htrail := agrees_trail e opened [] rows (size :: after) hsorted
    simp only [List.nil_append, List.append_nil, List.flatMap_nil] at htrail
    intro t ht
    rcases List.mem_append.1 ht with ht | ht
    · exact htrail t ht
    · exact agrees_entered hsorted List.prefix_rfl hstops.prefix_phases.subset t ht

lemma Trailed.halts (h : Trailed bench e opened skip rows last part) {halt : Halt}
    (herror : part.result = .error halt) :
    ∃ size ∈ e.todo skip, halt.size = some size ∧
      part.journal.stateAfter .notStarted ∈ e.phases size := by
  obtain ⟨state, hlast, hstate, -⟩ := h.getLast?
  have hends := h.ends
  rw [herror] at hends
  cases hends with
  | @halt size after cause _ hsizes hstops =>
    refine ⟨size, by simp [hsizes], rfl, hstate ▸ ?_⟩
    exact hstops.prefix_phases.subset (List.mem_of_getLast? hlast)

lemma Trailed.inStep (h : Trailed bench e opened skip rows last part) :
    InStep bench e opened skip rows part where
  path := h.path.1
  completes := h.path.2
  agrees := h.agrees
  last := by
    obtain ⟨state, -, hstate, hlast⟩ := h.getLast?
    rw [hstate, hlast]
  file := h.file
  lines row hrow := ⟨h.width row hrow, isLineOf_rowLine row⟩
  halts _ := h.halts
  recorded := by
    intro t ht hcomplete size hsize
    obtain ⟨added, hadded, hsizes, -⟩ := h.agrees t ht
    rw [hcomplete, State.recorded] at hsizes
    by_cases hskip : size ∈ skip
    · exact Or.inr hskip
    · have hmem : size ∈ added.map Row.size := hsizes ▸ mem_todo.2 ⟨hsize, hskip⟩
      exact Or.inl ((hadded.map Row.size).subset hmem)

lemma Stays.state {w : W} {cause : Fault} (h : Stays bench w cause part) :
    part.journal.stateAfter .notStarted = .notStarted := by
  unfold Journal.stateAfter
  rw [h.transitions]
  rfl

/-- **The states of a run agree with its file.**  A run whose build fails, or that cannot open its
results file, enters no state and leaves the file alone.  Any other run follows its path, from
size to size and through the phases of each, up to its end or to where it halts; and whenever it
enters a state, and when it halts there, the rows that it has added are those of the sizes
recorded in that state. -/
theorem run_inStep {W : Type} (bench : Bench W) (h : bench.Isolated) (e : Experiment) (w : W) :
    let part := run bench e w
    let found := bench.results w
    (∀ fault, (prepare bench w).1 = .error fault →
      Stays bench w (.build fault) part ∧ part.journal.stateAfter .notStarted = .notStarted) ∧
    ((prepare bench w).1 = .ok () →
      (∀ fault, e.openStore e.store found = .error fault →
        Stays bench w (.store fault) part ∧ part.journal.stateAfter .notStarted = .notStarted) ∧
      ∀ opened skip, e.openStore e.store found = .ok (opened, skip) →
        (skip = match e.mode with
          | .fresh => []
          | .resume => recordedIn found) ∧
        ∃ rows, InStep bench e opened skip rows part) := by
  intro part found
  refine ⟨fun fault hbuild => ?_, fun hbuild =>
    ⟨fun fault hopen => ?_, fun opened skip hopen => ?_⟩⟩
  · have hstays := run_of_build h e w hbuild
    exact ⟨hstays, hstays.state⟩
  · have hstays := run_of_store h w hbuild hopen
    exact ⟨hstays, hstays.state⟩
  · obtain ⟨rows, last, htrailed⟩ := run_trailed h w hbuild hopen
    exact ⟨skip_of_openStore hopen, rows, htrailed.inStep⟩

/-- The trial of the second size fails: the run ends in it, with the row of the first. -/
theorem run_inStep_second_size :
    let e : Experiment := { twoSizes with repetitions := 1, repetitions_ne_zero := by decide }
    let respond : Responses := fun calls _ =>
      if calls.length = 1 then .error (.spawn "m" "gone") else .ok "mean: 1"
    let part := run (Desk.bench respond none) e ⟨.missing, []⟩
    (∃ rows, InStep (Desk.bench respond none) e (Csv.line ["size", "ns"]) [] rows part) ∧
      part.journal.stateAfter .notStarted = .running 16 0 ∧
      part.world.file = .content (Text.encode "size,ns\n8,1.0\n") := by
  intro e respond part
  obtain ⟨-, hopens⟩ :=
    run_inStep (Desk.bench respond none) (Desk.isolated respond none) e ⟨.missing, []⟩
  obtain ⟨-, hok⟩ := hopens rfl
  exact ⟨(hok (Csv.line ["size", "ns"]) [] rfl).2, by decide +kernel, by decide +kernel⟩

end Runs

end SizeSweep.Experiment
