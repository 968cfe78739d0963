import SizeSweep.Proofs.Experiment.Progress
import SizeSweep.Proofs.Experiment.Resumption
import SizeSweep.Proofs.Store.Tearing

/-!
Running on after a crash.  A fresh run writes rows of the first sizes; whatever prefix of its bytes
is left, a run that resumes it refuses it before its first trial, or skips the first sizes and
measures all others, so that in the end every size is recorded once.
-/

namespace SizeSweep.Experiment

section Recovery

variable {e : Experiment} {respond : Responses} {build : Option (Except Build.Fault Unit)}
  {spot : Spot} {bytes torn opened : Bytes} {done : List UInt64}

/-- A fresh run leaves a file of rows of the first sizes. -/
lemma contents_of_fresh (hbuild : ∀ fault, build ≠ some (.error fault))
    (hwritten : (run (Desk.bench respond build) (e.inMode .fresh) ⟨spot, []⟩).world.file =
      .content bytes) :
    ∃ rows : List Row, bytes = Store.contents e.columns rows ∧ rows.map Row.size <+: e.sizes ∧
      ∀ row ∈ rows, row.values.length = e.metrics.length := by
  have hspot : ∀ fault, spot ≠ .blocked fault := by
    rintro fault rfl
    have hunstarted : Unstarted (.blocked fault)
        (run (Desk.bench respond build) (e.inMode .fresh) ⟨.blocked fault, []⟩) :=
      unstarted_of_openStore respond build rfl
    rw [hunstarted.2] at hwritten
    cases hwritten
  obtain ⟨before, after, rows, hprogress⟩ :=
    exists_progress respond hbuild (openStore_fresh (e := e) hspot)
  have htodo : (e.inMode .fresh).todo [] = e.sizes := by simp [todo, inMode]
  refine ⟨rows, ?_, ?_, hprogress.series.width⟩
  · have hcontent := hwritten.symm.trans hprogress.file
    rw [← Store.contents_append, List.nil_append] at hcontent
    exact Spot.content.inj hcontent
  · rw [hprogress.series.sizes_eq, ← htodo, hprogress.sizes]
    exact List.prefix_append ..

/-- What a run comes to that skips the sizes `done` and is to measure the sizes `rest`: its calls
are for these, and so is its halt; and if it completes every size is recorded once, in order. -/
structure RunsOn (e : Experiment) (done rest : List UInt64) (part : Part Desk (Except Halt Report)) :
    Prop where
  sizes : e.sizes = done ++ rest
  calls : ∀ size ∈ part.world.calls, size ∈ rest
  halts : ∀ halt, part.result = .error halt → ∃ size ∈ rest, halt.size = some size
  completes : ∀ report, part.result = .ok report → report.skipped = done ∧ report.persisted = rest ∧
    ∃ bytes table, part.world.file = .content bytes ∧ Table.ofBytes bytes = .ok table ∧
      table.sizes = e.sizes

lemma skipped_of_first (h : done <+: e.sizes) : e.sizes.filter done.contains = done := by
  have hdone : done.filter done.contains = done :=
    List.filter_eq_self.2 fun size hsize => List.contains_iff_mem.2 hsize
  have htodo : (e.todo done).filter done.contains = [] := by
    rw [List.filter_eq_nil_iff]
    intro size hsize hmem
    have hnew := (List.mem_filter.1 hsize).2
    rw [hmem] at hnew
    cases hnew
  rw [todo_of_first h, List.filter_append, hdone, htodo, List.append_nil]

/-- A run that opens its file with the first sizes to skip runs on, if rows appended to the file
are read behind these sizes. -/
lemma runsOn_of_opened (hbuild : ∀ fault, build ≠ some (.error fault))
    (hopen : e.openStore e.store spot = .ok (opened, done)) (hdone : done <+: e.sizes)
    (happended : ∀ more : List Row, (∀ row ∈ more, row.values.length = e.metrics.length) →
      ∃ table, Table.ofBytes (opened ++ more.flatMap Store.rowLine) = .ok table ∧
        table.sizes = done ++ more.map Row.size) :
    RunsOn e done (e.todo done) (run (Desk.bench respond build) e ⟨spot, []⟩) := by
  obtain ⟨before, after, more, hprogress⟩ := exists_progress respond hbuild hopen
  refine ⟨todo_of_first hdone, hprogress.mem_todo_of_call, fun halt herror => ?_, fun report hok => ?_⟩
  · obtain ⟨size, hsize, hhalt⟩ := hprogress.of_error herror
    exact ⟨size, hprogress.sizes ▸ List.mem_append_right before hsize, hhalt⟩
  · obtain ⟨hpersisted, hskipped, rfl⟩ := hprogress.of_ok hok
    have htodo : e.todo done = before := hprogress.sizes.trans (List.append_nil _)
    obtain ⟨table, hread, htable⟩ := happended more hprogress.series.width
    refine ⟨hskipped.trans (skipped_of_first hdone), hpersisted.trans htodo.symm, _, table,
      hprogress.file, hread, ?_⟩
    rw [htable, hprogress.series.sizes_eq, ← htodo, ← todo_of_first hdone]

/-- **No size is skipped or repeated after a crash.**  A run that resumes any prefix of the bytes
of a fresh run with the same sizes and metrics stops before its first trial and leaves the prefix
as it is, or it skips just the first sizes of the sweep; and if it completes, the file records
every size once, in the order of the sweep. -/
theorem runsOn_torn (e again : Experiment) (respond respond' : Responses)
    (build build' : Option (Except Build.Fault Unit)) (spot : Spot) (bytes torn : Bytes)
    (hsizes : again.sizes = e.sizes) (hmetrics : again.metrics = e.metrics)
    (hplain : ∀ m ∈ e.metrics, Plain m.column)
    (hbuild : ∀ fault, build ≠ some (.error fault))
    (hwritten : (run (Desk.bench respond build) (e.inMode .fresh) ⟨spot, []⟩).world.file =
      .content bytes)
    (htorn : torn <+: bytes) :
    let part := run (Desk.bench respond' build') (again.inMode .resume) ⟨.content torn, []⟩
    Unstarted (.content torn) part ∨
    ∃ opened done rest, again.store.resume (.content torn) = .ok (opened, done) ∧
      RunsOn again done rest part := by
  intro part
  rcases unstarted_or_opens (again.inMode .resume) respond' build' (.content torn) with
    hunstarted | ⟨hbuild', opened, done, hopen⟩
  · exact Or.inl hunstarted
  · obtain ⟨rows, rfl, hfirst, hwidth⟩ := contents_of_fresh hbuild hwritten
    have hresume : (Store.forMetrics again.results again.metrics).resume (.content torn) =
        .ok (opened, done) := hopen
    have hcontents : Store.contents e.columns rows =
        Store.contents (again.metrics.map Metric.column) rows := by
      rw [hmetrics]
      rfl
    obtain ⟨hdone, happended⟩ := Store.sizes_of_torn (hmetrics ▸ hplain)
      (Store.ne_nil_of_check again.metrics_ok) (hmetrics ▸ hwidth) (hcontents ▸ htorn) hresume
    have hrunsOn : RunsOn (again.inMode .resume) done ((again.inMode .resume).todo done) part :=
      runsOn_of_opened hbuild' hopen (hdone.trans (hsizes ▸ hfirst)) happended
    exact Or.inr ⟨opened, done, _, hresume, hrunsOn.sizes, hrunsOn.calls, hrunsOn.halts,
      hrunsOn.completes⟩

/-- A file of two sizes that was cut off inside the value of the first one. -/
theorem runsOn_torn_first_size :
    let out : UInt64 → ℕ → String := fun _ _ => "mean: 1"
    let torn := Text.encode "size,ns\n8,1."
    let part := run (Desk.bench (uninterrupted out) none) (twoSizes.inMode .resume)
      ⟨.content torn, []⟩
    Unstarted (.content torn) part ∨ ∃ rest, RunsOn twoSizes [8] rest part := by
  intro out torn part
  have hsamples : SampleSet.samplesIn ⟨"ns", "mean"⟩ ["mean: 1", "mean: 1"] =
      [Binary64.ofNat 1, Binary64.ofNat 1] := by decide +kernel
  have hmedian : median? [Binary64.ofNat 1, Binary64.ofNat 1] = some (Binary64.ofNat 1) := by
    unfold median?
    rw [ascending_eq_self (by decide +kernel)]
    decide +kernel
  have hclean : ∀ size, Clean twoSizes out ⟨size, [Binary64.ofNat 1]⟩ := fun size =>
    congrArg (fun x => [x]) ((congrArg median? hsamples).trans hmedian).symm
  have hbegun : Begun twoSizes out [⟨8, [Binary64.ofNat 1]⟩, ⟨16, [Binary64.ofNat 1]⟩] :=
    ⟨⟨[], rfl⟩, by simp [hclean]⟩
  have hwritten : (run (Desk.bench (uninterrupted out) none) (twoSizes.inMode .fresh)
      ⟨.missing, []⟩).world.file = .content (Store.contents twoSizes.columns
        [⟨8, [Binary64.ofNat 1]⟩, ⟨16, [Binary64.ofNat 1]⟩]) :=
    file_of_uninterrupted (by simp) hbegun rfl
  have htorn : torn <+: Store.contents twoSizes.columns
      [⟨8, [Binary64.ofNat 1]⟩, ⟨16, [Binary64.ofNat 1]⟩] :=
    ⟨Text.encode "0\n16,1.0\n", by decide +kernel⟩
  have hresume : twoSizes.store.resume (.content torn) = .ok (torn ++ [0x0A], [8]) := by
    decide +kernel
  rcases runsOn_torn twoSizes twoSizes (uninterrupted out) (uninterrupted out) none none .missing
    _ torn rfl rfl (by decide) (by simp) hwritten htorn with
    hunstarted | ⟨opened, done, rest, hok, hon⟩
  · exact Or.inl hunstarted
  · rw [hresume] at hok
    obtain ⟨-, rfl⟩ := Prod.mk.inj (Except.ok.inj hok)
    exact Or.inr ⟨rest, hon⟩

end Recovery

end SizeSweep.Experiment
