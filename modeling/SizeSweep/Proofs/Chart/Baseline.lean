import SizeSweep.Proofs.Binary64.Halving
import SizeSweep.Proofs.Chart.Ratios

/-!
The line of the baseline in its own relative chart.  A finite number that is no zero goes into
itself exactly once, however small it is, so the line is flat at one where the baseline records
finite values.  An infinity and what is no number are kept as divisors too, and there the line has
no number.
-/

namespace SizeSweep

namespace Binary64

section Quotients

variable {x : Binary64}

lemma units_one : units (ofNat 1).magnitude = unitsPerOne := by decide +kernel

/-- The exact quotient is one, and rounding keeps it. -/
lemma div_self_of_isFinite (h : x.isFinite = true) (hzero : x.isZero = false) :
    x / x = ofNat 1 := by
  have hmagnitude : 0 < x.magnitude := by
    have hne : ¬ x.magnitude = 0 := of_decide_eq_false hzero
    omega
  have hunits : 0 < units x.magnitude :=
    lt_of_le_of_lt (Nat.zero_le _) (units_strictMono hmagnitude)
  have hone : (ofNat 1).magnitude ≤ infinityMagnitude := by decide +kernel
  have hround : roundUnits (units x.magnitude * unitsPerOne) (units x.magnitude) =
      (ofNat 1).magnitude := by
    rw [Nat.mul_comm, ← units_one]
    exact roundUnits_units hunits hone
  have hquotient : x / x = ofUnits false (units x.magnitude * unitsPerOne) (units x.magnitude) := by
    show div x x = _
    unfold div
    simp [isNaN_of_isFinite h, isInfinite_of_isFinite h, hzero]
  have hsign : (ofNat 1).negative = false := rfl
  rw [hquotient, ofUnits, mk.injEq]
  exact ⟨hsign.symm, hround⟩

lemma div_self_of_not_isFinite (h : x.isFinite = false) : x / x = nan := by
  have hle : infinityMagnitude ≤ x.magnitude := Nat.le_of_not_lt (of_decide_eq_false h)
  show div x x = _
  unfold div
  rcases hle.eq_or_lt with heq | hlt
  · have hinfinite : x.isInfinite = true := decide_eq_true heq.symm
    simp [hinfinite]
  · have hnan : x.isNaN = true := decide_eq_true hlt
    simp [hnan]

end Quotients

end Binary64

namespace Chart

section Baseline

variable {datasets : List Dataset} {baseline : Dataset} {column : String} {sizes : List UInt64}
  {size : UInt64} {b place : ℕ}

/-- What is kept is recorded and no zero. -/
lemma recorded_of_mem_relative (h : size ∈ (relative datasets baseline column sizes).sizes) :
    size ∈ sizes ∧ ∃ y, recorded? column baseline size = some y ∧ y.isZero = false := by
  unfold relative at h
  obtain ⟨⟨_, y⟩, hentry, rfl⟩ := List.mem_map.1 h
  obtain ⟨hsize, hy, hzero⟩ := mem_divisors_iff.1 hentry
  exact ⟨hsize, y, hy, hzero⟩

/-- Where a size is kept, the baseline is divided by itself. -/
lemma point?_baseline (hbaseline : datasets[b]? = some baseline)
    (hsize : (relative datasets baseline column sizes).sizes[place]? = some size) :
    ∃ y, recorded? column baseline size = some y ∧
      (relative datasets baseline column sizes).point? b place =
        some (if y.isFinite then .ofNat 1 else .nan) := by
  obtain ⟨-, y, hy, hzero⟩ := recorded_of_mem_relative (List.mem_of_getElem? hsize)
  refine ⟨y, hy, ?_⟩
  rw [point?_relative hbaseline hsize, valueAt_of_recorded hy]
  split_ifs with hfinite
  · rw [Binary64.div_self_of_isFinite hfinite hzero]
  · rw [Binary64.div_self_of_not_isFinite (Bool.eq_false_iff.2 hfinite)]

/-- The line of the baseline, under its label. -/
lemma line_baseline (hbaseline : datasets[b]? = some baseline) :
    ∃ values, (relative datasets baseline column sizes).lines[b]? = some (baseline.label, values) ∧
      values.length = (relative datasets baseline column sizes).sizes.length := by
  obtain ⟨values, hline⟩ : ∃ values,
      (relative datasets baseline column sizes).lines[b]? = some (baseline.label, values) := by
    simp only [relative, List.getElem?_map, hbaseline, Option.map_some]
    exact ⟨_, rfl⟩
  exact ⟨values, hline, length_of_mem_relative (List.mem_of_getElem? hline)⟩

/-- **When the baseline is flat.**  The baseline has in its own relative chart the value one at a
kept size where it records a finite number, and no number where it records an infinity or no number.
So its line is flat at one exactly if all that it records at the given sizes is finite. -/
theorem baseline_flat_iff (datasets : List Dataset) (baseline : Dataset) (b : ℕ) (column : String)
    (sizes : List UInt64) (hbaseline : datasets[b]? = some baseline) :
    let relative := relative datasets baseline column sizes
    (∀ place size, relative.sizes[place]? = some size →
      ∃ y, baseline.table.Records size column y ∧
        relative.point? b place = some (if y.isFinite then .ofNat 1 else .nan)) ∧
    (relative.lines[b]? =
        some (baseline.label, List.replicate relative.sizes.length (.ofNat 1)) ↔
      ∀ size ∈ sizes, ∀ y, baseline.table.Records size column y → y.isFinite = true) := by
  intro relative
  have hpoints : ∀ place size, relative.sizes[place]? = some size →
      ∃ y, baseline.table.Records size column y ∧
        relative.point? b place = some (if y.isFinite then .ofNat 1 else .nan) := by
    intro place size hplace
    obtain ⟨y, hy, hpoint⟩ := point?_baseline hbaseline hplace
    exact ⟨y, Table.value?_eq_some_iff.1 hy, hpoint⟩
  refine ⟨hpoints, ?_⟩
  obtain ⟨values, hline, hlength⟩ : ∃ values, relative.lines[b]? = some (baseline.label, values) ∧
      values.length = relative.sizes.length := line_baseline hbaseline
  have hvalue : ∀ place, relative.point? b place = values[place]? := by
    intro place
    unfold point?
    rw [hline, Option.bind_some]
  rw [hline, Option.some.injEq, Prod.mk.injEq, List.eq_replicate_iff]
  constructor
  · rintro ⟨-, -, hflat⟩ size hsize y hy
    by_contra hinfinite
    -- What is not finite is no zero, so its size is kept.
    have hy' := Table.value?_eq_some_iff.2 hy
    have hkept : size ∈ relative.sizes := (mem_sizes_relative_iff hsize hy').2
      ⟨fun hzero => hinfinite (hzero ▸ rfl), fun hzero => hinfinite (hzero ▸ rfl)⟩
    obtain ⟨place, hplace⟩ := List.getElem?_of_mem hkept
    obtain ⟨x, hx, hpoint⟩ := hpoints place size hplace
    obtain rfl : y = x := Option.some.inj (hy'.symm.trans (Table.value?_eq_some_iff.2 hx))
    rw [hvalue, if_neg hinfinite] at hpoint
    exact absurd (hflat _ (List.mem_of_getElem? hpoint)) (by decide +kernel)
  · intro hfinite
    refine ⟨rfl, hlength, fun x hx => ?_⟩
    obtain ⟨place, hplace⟩ := List.getElem?_of_mem hx
    obtain ⟨hlt, -⟩ := List.getElem?_eq_some_iff.1 hplace
    rw [hlength] at hlt
    obtain ⟨y, hy, hpoint⟩ := hpoints place _ (List.getElem?_eq_getElem hlt)
    obtain ⟨hsize, -⟩ := recorded_of_mem_relative (List.getElem_mem hlt)
    rw [hvalue, hplace, if_pos (hfinite _ hsize y hy)] at hpoint
    exact Option.some.inj hpoint

/-- The line of the baseline passes a zero and has no number where an infinity is recorded. -/
theorem baseline_flat_iff_infinity :
    let d : Dataset := ⟨"a", ⟨["ns"], [⟨1, [.zero true]⟩, ⟨2, [.infinity false]⟩, ⟨4, [.ofNat 3]⟩]⟩⟩
    let relative := relative [d] d "ns" [1, 2, 4]
    [d][0]? = some d ∧ relative.sizes = [2, 4] ∧
      (∃ y, d.table.Records 2 "ns" y ∧ relative.point? 0 0 =
        some (if y.isFinite then .ofNat 1 else .nan)) ∧
      d.table.Records 2 "ns" (.infinity false) ∧
      relative.lines[0]? ≠ some ("a", List.replicate relative.sizes.length (.ofNat 1)) := by
  intro d relative
  obtain ⟨hpoints, hflat⟩ := baseline_flat_iff [d] d 0 "ns" [1, 2, 4] rfl
  have hsizes : relative.sizes = [2, 4] := by decide +kernel
  have hinfinite : d.table.Records 2 "ns" (.infinity false) :=
    Table.value?_eq_some_iff.1 (by decide +kernel)
  refine ⟨rfl, hsizes, hpoints 0 2 (by rw [hsizes]; rfl), hinfinite, fun hline => ?_⟩
  exact absurd (hflat.1 hline 2 (by decide) _ hinfinite) (by decide)

/-- A baseline that was read need not be flat. -/
theorem not_forall_baseline_flat :
    ¬∀ (datasets : List Dataset) (baseline : Dataset) (b : ℕ) (column : String),
      (∀ d ∈ datasets, d.table.IsRead) → datasets[b]? = some baseline →
      column ∈ sharedColumns datasets →
      ∀ values, (relative datasets baseline column (sharedSizes datasets)).lines[b]? =
        some (baseline.label, values) → ∀ x ∈ values, x = .ofNat 1 := by
  intro h
  let d : Dataset := ⟨"a", ⟨["ns"], [⟨1, [.infinity false]⟩]⟩⟩
  have hread : d.table.IsRead := ⟨.ok (Text.encode "size,ns\n1,inf\n"), by decide +kernel⟩
  have hone := h [d] d 0 "ns" (by simpa using hread) rfl (by decide) [.nan] (by decide +kernel) .nan
    (by simp)
  exact absurd hone (by decide +kernel)

end Baseline

end Chart

end SizeSweep
