import SizeSweep.Proofs.Chart.Recorded

/-!
The relative chart is the absolute one divided by the baseline, place by place.  Which sizes are
left out depends on the baseline alone; the places of the others move up, and a value stays with
its size.
-/

namespace SizeSweep

namespace Chart

def point? (chart : Chart) (line place : ℕ) : Option Binary64 :=
  (chart.lines[line]?).bind fun l => l.2[place]?

section Ratios

variable {datasets : List Dataset} {baseline d : Dataset} {column : String}
  {sizes : List UInt64} {size : UInt64} {line place : ℕ}

lemma sizes_relative (datasets : List Dataset) (baseline : Dataset) (column : String)
    (sizes : List UInt64) :
    (relative datasets baseline column sizes).sizes = keptSizes baseline column sizes :=
  map_fst_divisors baseline column sizes

lemma point?_absolute (hd : datasets[line]? = some d) (hsize : sizes[place]? = some size) :
    (absolute datasets column sizes).point? line place = some (valueAt d column size) := by
  simp [point?, absolute, hd, hsize]

lemma point?_relative (hd : datasets[line]? = some d)
    (hsize : (relative datasets baseline column sizes).sizes[place]? = some size) :
    (relative datasets baseline column sizes).point? line place =
      some (valueAt d column size / valueAt baseline column size) := by
  unfold relative at hsize
  rw [List.getElem?_map] at hsize
  obtain ⟨⟨_, divisor⟩, hentry, rfl⟩ := Option.map_eq_some_iff.1 hsize
  obtain ⟨-, hrecorded, -⟩ := mem_divisors_iff.1 (List.mem_of_getElem? hentry)
  rw [valueAt_of_recorded hrecorded]
  simp [point?, relative, hd, hentry]

lemma mem_sizes_relative_iff {y : Binary64} (hsize : size ∈ sizes)
    (hrecorded : recorded? column baseline size = some y) :
    size ∈ (relative datasets baseline column sizes).sizes ↔ y ≠ .zero false ∧ y ≠ .zero true := by
  rw [sizes_relative, keptSizes, List.mem_filter, hrecorded]
  simp [hsize]

lemma labels_relative (datasets : List Dataset) (baseline : Dataset) (column : String)
    (sizes : List UInt64) :
    (relative datasets baseline column sizes).lines.map Prod.fst =
      (absolute datasets column sizes).lines.map Prod.fst := by
  unfold relative absolute
  rw [List.map_map, List.map_map]
  rfl

lemma length_of_mem_relative {entry : String × List Binary64}
    (h : entry ∈ (relative datasets baseline column sizes).lines) :
    entry.2.length = (relative datasets baseline column sizes).sizes.length := by
  unfold relative at h ⊢
  obtain ⟨d, -, rfl⟩ := List.mem_map.1 h
  rw [List.length_map, List.length_map]

/-- **The relative chart divides the absolute one.**  The absolute chart has all the sizes, and the
relative one keeps those, in order, at which the baseline records a value that is no zero of either
sign.  Its lines have the labels of the absolute chart and a value for each size that is kept, and
wherever a size stands in the two charts, the value of a line there is its absolute value divided by
the absolute value of the baseline.  Where columns and sizes are shared by datasets that were read,
a size is kept exactly if the absolute value of the baseline is no zero. -/
theorem relative_divides_absolute (datasets : List Dataset) (baseline : Dataset) (b : ℕ)
    (column : String) (sizes : List UInt64) (hbaseline : datasets[b]? = some baseline) :
    let absolute := absolute datasets column sizes
    let relative := relative datasets baseline column sizes
    absolute.sizes = sizes ∧
    relative.sizes = sizes.filter (fun size => (recorded? column baseline size).any
      fun y => y ≠ .zero false ∧ y ≠ .zero true) ∧
    relative.lines.map Prod.fst = absolute.lines.map Prod.fst ∧
    (∀ line ∈ relative.lines, line.2.length = relative.sizes.length) ∧
    (∀ line < datasets.length, ∀ place before size, relative.sizes[place]? = some size →
      absolute.sizes[before]? = some size → ∃ x y, absolute.point? line before = some x ∧
        absolute.point? b before = some y ∧ relative.point? line place = some (x / y)) ∧
    ((∀ d ∈ datasets, d.table.IsRead) → column ∈ sharedColumns datasets →
      (∀ size ∈ sizes, size ∈ sharedSizes datasets) →
      ∀ place size y, absolute.sizes[place]? = some size → absolute.point? b place = some y →
        (size ∈ relative.sizes ↔ y ≠ .zero false ∧ y ≠ .zero true)) := by
  intro absolute relative
  refine ⟨rfl, sizes_relative .., labels_relative .., fun _ => length_of_mem_relative, ?_, ?_⟩
  · intro line hline place before size hplace hbefore
    have hd : datasets[line]? = some datasets[line] := List.getElem?_eq_getElem hline
    exact ⟨_, _, point?_absolute hd hbefore, point?_absolute hbaseline hbefore,
      point?_relative hd hplace⟩
  · intro hread hcolumn hshared place size y hplace hy
    have hsize : size ∈ sizes := List.mem_of_getElem? hplace
    obtain ⟨x, hx, -⟩ :=
      exists_recorded hread hcolumn (hshared size hsize) (List.mem_of_getElem? hbaseline)
    obtain rfl : x = y := by
      rw [← valueAt_of_recorded hx]
      exact Option.some.inj ((point?_absolute hbaseline hplace).symm.trans hy)
    exact mem_sizes_relative_iff hsize hx

/-- The sizes before and between those that are kept have a zero of either sign. -/
theorem relative_divides_absolute_zeros :
    let a : Dataset :=
      ⟨"a", ⟨["ns"], [⟨1, [.ofNat 7]⟩, ⟨2, [.ofNat 6]⟩, ⟨4, [.ofNat 5]⟩, ⟨8, [.ofNat 2]⟩]⟩⟩
    let b : Dataset :=
      ⟨"b", ⟨["ns"], [⟨1, [.zero true]⟩, ⟨2, [.ofNat 3]⟩, ⟨4, [.zero false]⟩, ⟨8, [.ofNat 4]⟩]⟩⟩
    let absolute := absolute [a, b] "ns" [1, 2, 4, 8]
    let relative := relative [a, b] b "ns" [1, 2, 4, 8]
    [a, b][1]? = some b ∧ absolute.sizes = [1, 2, 4, 8] ∧ relative.sizes = [2, 8] ∧
      ∃ x y, absolute.point? 0 3 = some x ∧ absolute.point? 1 3 = some y ∧
        relative.point? 0 1 = some (x / y) ∧ x = .ofNat 2 ∧ y = .ofNat 4 := by
  intro a b absolute relative
  obtain ⟨hall, hsizes, -, -, hpoints, -⟩ :=
    relative_divides_absolute [a, b] b 1 "ns" [1, 2, 4, 8] rfl
  have hkept : relative.sizes = [2, 8] := hsizes.trans (by decide +kernel)
  obtain ⟨x, y, hx, hy, hxy⟩ := hpoints 0 (by decide) 1 3 8 (by rw [hkept]; rfl) rfl
  refine ⟨rfl, hall, hkept, x, y, hx, hy, hxy, ?_, ?_⟩
  · exact Option.some.inj (hx.symm.trans (by decide +kernel))
  · exact Option.some.inj (hy.symm.trans (by decide +kernel))

end Ratios

end Chart

end SizeSweep
