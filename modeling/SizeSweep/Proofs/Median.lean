import SizeSweep.Proofs.Aggregate
import SizeSweep.Proofs.Binary64.Halving

/-!
The median among the samples.  The median of finite samples is finite, and it lies between the
smallest and the largest of them with one exception: more than half of an even number of samples
have the smallest or the largest value, and this value is an odd number of units.  Then both numbers
in the middle have it, their halves are rounded, and the sum may lie one unit beyond all samples.
-/

namespace SizeSweep

/-! ### The order of values -/

namespace Binary64

variable {x y : Binary64}

/-- The total order is finer than the order of the values. -/
lemma signedUnits_le_of_rank_le (h : x.rank ≤ y.rank) : x.signedUnits ≤ y.signedUnits := by
  have hmono : ∀ {m n : ℕ}, m ≤ n → units m ≤ units n := fun h => units_strictMono.monotone h
  unfold rank at h
  unfold signedUnits
  split_ifs at h ⊢
  · have := hmono (show y.magnitude ≤ x.magnitude by omega)
    omega
  · omega
  · omega
  · have := hmono (show x.magnitude ≤ y.magnitude by omega)
    omega

lemma rank_lt_of_signedUnits_lt (h : x.signedUnits < y.signedUnits) : x.rank < y.rank := by
  by_contra hle
  have := signedUnits_le_of_rank_le (not_lt.1 hle)
  omega

/-- Two numbers of one value are the same number, zeros apart. -/
lemma eq_of_signedUnits_eq (h : x.signedUnits = y.signedUnits) (hne : y.signedUnits ≠ 0) :
    x = y := by
  have hsame : ∀ {m n : ℕ}, units m = units n → m = n := fun h => units_strictMono.injective h
  obtain ⟨negative, magnitude, hlt⟩ := x
  obtain ⟨negative', magnitude', hlt'⟩ := y
  unfold signedUnits at h hne
  simp only at h hne
  have hmagnitude : magnitude = magnitude' := by
    apply hsame
    split_ifs at h hne <;> omega
  subst hmagnitude
  cases negative <;> cases negative' <;> simp at h hne ⊢ <;> omega

/-- A number of value zero is one of the zeros. -/
lemma eq_zero_of_signedUnits_eq_zero (h : x.signedUnits = 0) : x = zero x.negative := by
  have hunits : units x.magnitude = units 0 := by
    have hzero : units 0 = 0 := by decide
    unfold signedUnits at h
    split_ifs at h <;> omega
  have hmagnitude : x.magnitude = 0 := units_strictMono.injective hunits
  obtain ⟨negative, magnitude, hlt⟩ := x
  subst hmagnitude
  rfl

end Binary64

/-! ### Places and values -/

section Places

variable {samples : List Binary64} {x low high m : Binary64} {k : ℕ} {v : ℤ}

/-- If `k` samples are not above a value, the `k`-th smallest is not above it. -/
lemma IsSmallest.signedUnits_le (h : IsSmallest k samples x)
    (hcount : k ≤ samples.countP fun y => y.signedUnits ≤ v) : x.signedUnits ≤ v := by
  by_contra hgt
  have hle : samples.countP (fun y => y.signedUnits ≤ v) ≤
      samples.countP fun y => y.rank < x.rank := by
    refine List.countP_mono_left fun y _ hy => ?_
    have hy : y.signedUnits ≤ v := of_decide_eq_true hy
    exact decide_eq_true (Binary64.rank_lt_of_signedUnits_lt (by omega))
  have hbefore := h.before
  omega

/-- If all samples but fewer than `k` are not below a value, the `k`-th smallest is not below it. -/
lemma IsSmallest.le_signedUnits (h : IsSmallest k samples x)
    (hcount : samples.length < k + samples.countP fun y => v ≤ y.signedUnits) :
    v ≤ x.signedUnits := by
  by_contra hlt
  have hle : samples.countP (fun y => v ≤ y.signedUnits) ≤
      samples.countP fun y => x.rank < y.rank := by
    refine List.countP_mono_left fun y _ hy => ?_
    have hy : v ≤ y.signedUnits := of_decide_eq_true hy
    exact decide_eq_true (Binary64.rank_lt_of_signedUnits_lt (by omega))
  have hbehind := h.behind
  omega

/-- As many samples as its place says have a value up to that of the `k`-th smallest. -/
lemma IsSmallest.le_countP (h : IsSmallest k samples x) :
    k ≤ samples.countP fun y => y.signedUnits ≤ x.signedUnits := by
  refine h.upTo.trans (List.countP_mono_left fun y _ hy => ?_)
  have hy : y.rank ≤ x.rank := of_decide_eq_true hy
  exact decide_eq_true (Binary64.signedUnits_le_of_rank_le hy)

/-- All samples but fewer than its place says have a value from that of the `k`-th smallest on. -/
lemma IsSmallest.length_lt (h : IsSmallest k samples x) :
    samples.length < k + samples.countP fun y => x.signedUnits ≤ y.signedUnits := by
  have hsplit := List.length_eq_countP_add_countP (fun y : Binary64 => y.rank < x.rank)
    (l := samples)
  have hle : samples.countP (fun y => ¬decide (y.rank < x.rank) = true) ≤
      samples.countP fun y => x.signedUnits ≤ y.signedUnits := by
    refine List.countP_mono_left fun y _ hy => ?_
    have hy : ¬y.rank < x.rank := by simpa using hy
    exact decide_eq_true (Binary64.signedUnits_le_of_rank_le (not_lt.1 hy))
  have hbefore := h.before
  omega

end Places

/-! ### Bounds of the median -/

/-- A number between the smallest and the largest of some samples. -/
def Within (samples : List Binary64) (x : Binary64) : Prop :=
  (∃ y ∈ samples, y.signedUnits ≤ x.signedUnits) ∧ ∃ y ∈ samples, x.signedUnits ≤ y.signedUnits

/-- More than half of an even number of samples have the value `v`, it is an odd number of units,
and it is the smallest of their values, with the multiple of four below it, or the largest, with the
multiple of four above it. -/
structure Strays (samples : List Binary64) (v : ℤ) : Prop where
  even : samples.length % 2 = 0
  most : samples.length / 2 < samples.countP fun y => y.signedUnits = v
  outermost : (v % 4 = 1 ∧ ∀ y ∈ samples, v ≤ y.signedUnits) ∨
    (v % 4 = 3 ∧ ∀ y ∈ samples, y.signedUnits ≤ v)

section Bounds

variable {samples : List Binary64} {x low high m : Binary64} {k : ℕ} {v : ℤ}

lemma isFinite_of_median? (hfinite : ∀ s ∈ samples, s.isFinite = true)
    (h : median? samples = some x) : x.isFinite = true := by
  rcases median?_eq_some h with hmem | ⟨low, hlow, high, hhigh, rfl⟩
  · exact hfinite x hmem
  · exact Binary64.isFinite_add_halves (hfinite low hlow) (hfinite high hhigh)

/-- Where more than half of the samples have one outermost value, both in the middle have it. -/
lemma Strays.middle (h : Strays samples v) (hlow : IsSmallest (samples.length / 2) samples low)
    (hhigh : IsSmallest (samples.length / 2 + 1) samples high) :
    low.signedUnits = v ∧ high.signedUnits = v := by
  have heven := h.even
  have hmost := h.most
  have hup : samples.countP (fun y => y.signedUnits = v) ≤
      samples.countP fun y => y.signedUnits ≤ v :=
    List.countP_mono_left fun y _ hy => decide_eq_true (of_decide_eq_true hy).le
  have hdown : samples.countP (fun y => y.signedUnits = v) ≤
      samples.countP fun y => v ≤ y.signedUnits :=
    List.countP_mono_left fun y _ hy => decide_eq_true (of_decide_eq_true hy).ge
  have hlow_le : low.signedUnits ≤ v := hlow.signedUnits_le (by omega)
  have hle_low : v ≤ low.signedUnits := hlow.le_signedUnits (by omega)
  have hhigh_le : high.signedUnits ≤ v := hhigh.signedUnits_le (by omega)
  have hle_high : v ≤ high.signedUnits := hhigh.le_signedUnits (by omega)
  omega

/-- A median that strays is not among the samples. -/
lemma Strays.not_within (h : Strays samples v) (hfinite : ∀ s ∈ samples, s.isFinite = true)
    (hlow : IsSmallest (samples.length / 2) samples low)
    (hhigh : IsSmallest (samples.length / 2 + 1) samples high) :
    ¬Within samples (low / Binary64.ofNat 2 + high / Binary64.ofNat 2) := by
  obtain ⟨hlow_eq, hhigh_eq⟩ := h.middle hlow hhigh
  have hsum := Binary64.signedUnits_add_halves_of_odd (hfinite low hlow.mem)
    (hfinite high hhigh.mem) (hlow_eq.trans hhigh_eq.symm)
  rintro ⟨⟨y, hy, hbelow⟩, z, hz, habove⟩
  rcases h.outermost with ⟨hfour, hmin⟩ | ⟨hfour, hmax⟩
  · have hdrift : Binary64.drift low.signedUnits = -1 := by
      unfold Binary64.drift
      rw [hlow_eq, if_pos hfour]
    have := hsum (by omega)
    have := hmin y hy
    omega
  · have hdrift : Binary64.drift low.signedUnits = 1 := by
      unfold Binary64.drift
      rw [hlow_eq, if_neg (by omega), if_pos hfour]
    have := hsum (by omega)
    have := hmax z hz
    omega

/-- If both numbers in the middle have an odd value and no sample is below it, the median strays
below it, and likewise above. -/
lemma strays_of_middle (heven : samples.length % 2 = 0)
    (hlow : IsSmallest (samples.length / 2) samples low)
    (hhigh : IsSmallest (samples.length / 2 + 1) samples high)
    (heq : low.signedUnits = high.signedUnits)
    (h : (low.signedUnits % 4 = 1 ∧ ∀ y ∈ samples, low.signedUnits ≤ y.signedUnits) ∨
      (low.signedUnits % 4 = 3 ∧ ∀ y ∈ samples, y.signedUnits ≤ low.signedUnits)) :
    Strays samples low.signedUnits := by
  refine ⟨heven, ?_, h⟩
  rcases h with ⟨-, hmin⟩ | ⟨-, hmax⟩
  · -- no sample is smaller, so all up to the upper one of the middle are equal
    refine Nat.lt_of_lt_of_le (Nat.lt_of_succ_le hhigh.le_countP)
      (List.countP_mono_left fun y hy hle => ?_)
    have hle : y.signedUnits ≤ high.signedUnits := of_decide_eq_true hle
    have hge := hmin y hy
    exact decide_eq_true (by omega)
  · -- no sample is larger, so all from the lower one of the middle on are equal
    have hge : samples.countP (fun y => low.signedUnits ≤ y.signedUnits) ≤
        samples.countP fun y => y.signedUnits = low.signedUnits := by
      refine List.countP_mono_left fun y hy hle => ?_
      have hle : low.signedUnits ≤ y.signedUnits := of_decide_eq_true hle
      have hge := hmax y hy
      exact decide_eq_true (by omega)
    have hlength := hlow.length_lt
    omega

lemma within_halves_iff (heven : samples.length % 2 = 0)
    (hfinite : ∀ s ∈ samples, s.isFinite = true)
    (hlow : IsSmallest (samples.length / 2) samples low)
    (hhigh : IsSmallest (samples.length / 2 + 1) samples high) :
    Within samples (low / Binary64.ofNat 2 + high / Binary64.ofNat 2) ↔
      ¬∃ v, Strays samples v := by
  have hlow_finite := hfinite low hlow.mem
  have hhigh_finite := hfinite high hhigh.mem
  constructor
  · rintro hwithin ⟨v, hstrays⟩
    exact hstrays.not_within hfinite hlow hhigh hwithin
  · intro hno
    have hle : low.signedUnits ≤ high.signedUnits :=
      hlow.signedUnits_le (by have := hhigh.le_countP; omega)
    by_cases hodd : low.signedUnits = high.signedUnits → low.signedUnits % 2 = 0
    · have hbetween :=
        Binary64.signedUnits_add_halves_between hlow_finite hhigh_finite hle hodd
      exact ⟨⟨low, hlow.mem, hbetween.1⟩, high, hhigh.mem, hbetween.2⟩
    · obtain ⟨heq, hodd⟩ := Classical.not_imp.1 hodd
      have hsum := Binary64.signedUnits_add_halves_of_odd hlow_finite hhigh_finite heq (by omega)
      unfold Binary64.drift at hsum
      -- the sum lies one unit beside both, so a sample farther out is needed on that side
      rcases (show low.signedUnits % 4 = 1 ∨ low.signedUnits % 4 = 3 by omega) with hfour | hfour
      · rw [if_pos hfour] at hsum
        have hbelow : ∃ y ∈ samples, y.signedUnits < low.signedUnits := by
          by_contra hmin
          simp only [not_exists, not_and, not_lt] at hmin
          exact hno ⟨_, strays_of_middle heven hlow hhigh heq (Or.inl ⟨hfour, hmin⟩)⟩
        obtain ⟨y, hy, hlt⟩ := hbelow
        exact ⟨⟨y, hy, by omega⟩, high, hhigh.mem, by omega⟩
      · rw [if_neg (by omega), if_pos hfour] at hsum
        have habove : ∃ y ∈ samples, low.signedUnits < y.signedUnits := by
          by_contra hmax
          simp only [not_exists, not_and, not_lt] at hmax
          exact hno ⟨_, strays_of_middle heven hlow hhigh heq (Or.inr ⟨hfour, hmax⟩)⟩
        obtain ⟨y, hy, hlt⟩ := habove
        exact ⟨⟨low, hlow.mem, by omega⟩, y, hy, by omega⟩

/-- A number is the sum of its halves if it has an even number of units. -/
lemma add_halves_eq_iff (hfinite : x.isFinite = true) :
    x / Binary64.ofNat 2 + x / Binary64.ofNat 2 = x ↔ x.signedUnits % 2 = 0 := by
  constructor
  · intro h
    by_contra hodd
    have hsum := Binary64.signedUnits_add_halves_of_odd hfinite hfinite rfl (by omega)
    rw [h] at hsum
    unfold Binary64.drift at hsum
    split_ifs at hsum <;> omega
  · intro heven
    by_cases hzero : x.signedUnits = 0
    · rw [Binary64.eq_zero_of_signedUnits_eq_zero hzero]
      cases x.negative <;> decide +kernel
    · have hbetween :=
        Binary64.signedUnits_add_halves_between hfinite hfinite le_rfl fun _ => heven
      exact Binary64.eq_of_signedUnits_eq (by omega) hzero

/-- **The median lies among the samples**, between the smallest and the largest of them, exactly if
it does not stray; and the median of equal samples is that sample exactly if their count is odd or
the sample is an even number of units. -/
theorem median?_within_iff (samples : List Binary64) (hne : samples ≠ [])
    (hfinite : ∀ s ∈ samples, s.isFinite = true) :
    ∃ m, median? samples = some m ∧ m.isFinite = true ∧
      (Within samples m ↔ ¬∃ v, Strays samples v) ∧
      ∀ x, (∀ s ∈ samples, s = x) →
        (m = x ↔ samples.length % 2 = 1 ∨ x.signedUnits % 2 = 0) := by
  obtain ⟨m, hm⟩ := Option.ne_none_iff_exists'.1 (mt median?_eq_none_iff.1 hne)
  refine ⟨m, hm, isFinite_of_median? hfinite hm, ?_⟩
  cases isMedian_of_median? hm with
  | odd hodd hmem _ _ =>
    constructor
    · refine ⟨?_, fun _ => ⟨⟨m, hmem, le_rfl⟩, m, hmem, le_rfl⟩⟩
      rintro - ⟨v, hstrays⟩
      have heven := hstrays.even
      omega
    · intro x hall
      exact ⟨fun _ => Or.inl hodd, fun _ => hall m hmem⟩
  | even heven hlow hhigh =>
    refine ⟨within_halves_iff heven hfinite hlow hhigh, fun x hall => ?_⟩
    obtain rfl := hall _ hlow.mem
    obtain rfl := hall _ hhigh.mem
    rw [add_halves_eq_iff (hfinite _ hhigh.mem)]
    omega

/-- Two samples of one unit in the middle, with others on both sides. -/
theorem median?_within_iff_flanked :
    let samples := [0, 1, 1, 2].map fun n => Binary64.ofUnits false n 1
    samples ≠ [] ∧ (∀ s ∈ samples, s.isFinite = true) ∧
      ∃ m, median? samples = some m ∧ Within samples m := by
  intro samples
  have hne : samples ≠ [] := by decide
  have hfinite : ∀ s ∈ samples, s.isFinite = true := by decide +kernel
  obtain ⟨m, hm, -, hwithin, -⟩ := median?_within_iff samples hne hfinite
  refine ⟨hne, hfinite, m, hm, hwithin.2 ?_⟩
  rintro ⟨v, hstrays⟩
  have hmost := hstrays.most
  have hvalues : samples.map Binary64.signedUnits = [0, 1, 1, 2] := by decide +kernel
  have hcount : samples.countP (fun y => y.signedUnits = v) =
      ([0, 1, 1, 2] : List ℤ).countP fun u => u = v := by
    rw [← hvalues, List.countP_map]
    rfl
  have hhalf : samples.length / 2 = 2 := by simp [samples]
  rw [hcount, hhalf] at hmost
  simp only [List.countP_cons, List.countP_nil, decide_eq_true_eq] at hmost
  split_ifs at hmost <;> omega

/-- The median of two samples of one unit is zero. -/
theorem not_forall_median?_within :
    ¬∀ samples : List Binary64, samples ≠ [] → (∀ s ∈ samples, s.isFinite = true) →
      ∃ m, median? samples = some m ∧ Within samples m := by
  intro h
  let one := Binary64.ofUnits false 1 1
  obtain ⟨m, hm, ⟨y, hy, hle⟩, -⟩ := h [one, one] (by simp) (by decide +kernel)
  have hmedian : median? [one, one] = some (.zero false) := by
    unfold median?
    rw [ascending_eq_self (by decide +kernel)]
    decide +kernel
  obtain rfl : Binary64.zero false = m := Option.some.inj (hmedian.symm.trans hm)
  obtain rfl : y = one := by simpa using hy
  revert hle
  decide +kernel

end Bounds

end SizeSweep
