import SizeSweep.Proofs.Experiment.Provenance
import SizeSweep.Proofs.Median

/-!
Finite rows.  Only finite numbers are samples, and the median of finite samples is finite again: each
of the two middle ones is halved before they are added, which no two finite numbers can overflow.  So
whatever the measured program prints, no row of a run holds an infinity or something that is no number.
-/

namespace SizeSweep

namespace Experiment

section Finiteness

variable {e : Experiment} {outputs : List String} {row : Row}

lemma MedianOf.isFinite (h : MedianOf e outputs row) : ∀ x ∈ row.values, x.isFinite = true := by
  intro x hx
  have hmem : some x ∈ e.metrics.map fun m => median? (outputs.flatMap (reported m.label)) :=
    h.2 ▸ List.mem_map_of_mem hx
  obtain ⟨m, -, hmedian⟩ := List.mem_map.1 hmem
  refine isFinite_of_median? (fun s hs => ?_) hmedian
  obtain ⟨output, -, hreported⟩ := List.mem_flatMap.1 hs
  exact isFinite_of_reported hreported

/-- **Only finite numbers are recorded.**  Whatever file a run finds and whatever the outputs of the
trials say, the run adds nothing to the file, or the lines of some rows, those of the sizes that
it reports if it completes, and every value of these rows is a finite number. -/
theorem recorded_isFinite (e : Experiment) (respond : Responses)
    (build : Option (Except Build.Fault Unit)) (spot : Spot) :
    let part := run (Desk.bench respond build) e ⟨spot, []⟩
    Unstarted spot part ∨
    ∃ opened skip, ∃ rows : List Row, e.openStore e.store spot = .ok (opened, skip) ∧
      part.world.file = .content (opened ++ rows.flatMap Store.rowLine) ∧
      (∀ report, part.result = .ok report → rows.map Row.size = report.persisted) ∧
      ∀ row ∈ rows, row.values.length = e.metrics.length ∧ ∀ x ∈ row.values, x.isFinite = true := by
  intro part
  rcases unstarted_or_opens e respond build spot with hunstarted | ⟨hbuild, opened, skip, hopen⟩
  · exact Or.inl hunstarted
  · obtain ⟨before, after, rows, hprogress⟩ := exists_progress respond hbuild hopen
    have hseries := hprogress.series
    have hnodup : (before ++ after).Nodup :=
      hprogress.sizes ▸ Sweep.nodup_of_pairwise (pairwise_todo e skip)
    have hmedians := medianOf_of_series hseries (List.nodup_append.1 hnodup).1
    refine Or.inr ⟨opened, skip, rows, hopen, hprogress.file, fun report hok => ?_,
      fun row hrow => ⟨hseries.width row hrow, (hmedians row hrow).isFinite⟩⟩
    rw [hseries.sizes_eq]
    exact (hprogress.of_ok hok).1.symm

end Finiteness

end Experiment

end SizeSweep
