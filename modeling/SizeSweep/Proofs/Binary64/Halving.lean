import SizeSweep.Proofs.Binary64.Rounding

/-!
Halves and their sums.  A rounded value does not pass a magnitude that the exact value does not pass.
So half of a finite number lies an exponent below the largest numbers, whatever the number, and two
such halves have a finite sum.  Half of an odd number of units is no whole number and is rounded, so
the sum lies between two different numbers, and beside a number added to itself if that is odd.
-/

namespace SizeSweep.Binary64

/-! ### Bounds of rounded values -/

lemma units_strictMono : StrictMono units := by
  refine strictMono_nat_of_lt_succ fun m => ?_
  have hmid := units_lt_upperMidpoint m
  unfold upperMidpoint at hmid
  have hlt : (units m : ℚ) < units (m + 1) := by linarith
  exact_mod_cast hlt

section Bounds

variable {num den : ℕ}

lemma roundQuotient_le {k : ℕ} (hden : 0 < den) (h : num ≤ k * den) :
    roundQuotient num den ≤ k := by
  have hsplit := Nat.div_add_mod' num den
  have hmod := Nat.mod_lt num hden
  have hqk : num / den ≤ k := Nat.div_le_of_le_mul (by rwa [Nat.mul_comm])
  unfold roundQuotient
  generalize num / den = q at *
  generalize num % den = r at *
  rcases hqk.lt_or_eq with hlt | rfl
  · simp only
    split_ifs <;> omega
  · -- the quotient is exact
    obtain rfl : r = 0 := by omega
    simp only [Nat.mul_zero, if_pos hden, le_refl]

/-- The whole part of a quotient ends where its places do. -/
lemma lt_of_log2_sub (num : ℕ) (hden : 0 < den) :
    num < 2 * leadingBit * (den <<< ((num / den).log2 - 52)) := by
  have hL : 2 * leadingBit = 2 ^ 53 := by decide
  have hlt : num / den < 2 ^ (53 + ((num / den).log2 - 52)) := by
    rcases Nat.eq_zero_or_pos (num / den) with hzero | hpos
    · rw [hzero]
      positivity
    · rw [← Nat.log2_lt hpos.ne']
      omega
  rw [Nat.div_lt_iff_lt_mul hden, pow_add] at hlt
  rw [hL, Nat.shiftLeft_eq]
  calc num < 2 ^ 53 * 2 ^ ((num / den).log2 - 52) * den := hlt
    _ = 2 ^ 53 * (den * 2 ^ ((num / den).log2 - 52)) := by ring

/-- **Rounding keeps an upper bound** that is itself the value of a magnitude. -/
theorem roundUnits_le {m : ℕ} (hden : 0 < den) (h : num ≤ units m * den) :
    roundUnits num den ≤ m := by
  obtain ⟨E, M, rfl, hM, hlt⟩ := exists_significand m
  rw [units_significand hM hlt.le] at h
  have hplaces := lt_of_log2_sub num hden
  have hscale : (num / den).log2 - 52 ≤ E := by
    by_contra hgt
    have hpos : num / den ≠ 0 := by
      intro hzero
      rw [hzero] at hgt
      exact hgt (Nat.zero_le E)
    have hlow : 2 ^ (53 + E) ≤ num / den := (Nat.le_log2 hpos).1 (by omega)
    rw [Nat.le_div_iff_mul_le hden, pow_add, show 2 ^ 53 = 2 * leadingBit by decide] at hlow
    have hM' : M * (2 ^ E * den) < 2 * leadingBit * (2 ^ E * den) :=
      Nat.mul_lt_mul_of_pos_right hlt (by positivity)
    simp only [Nat.mul_assoc] at h hlow hM'
    omega
  unfold roundUnits
  generalize (num / den).log2 - 52 = s at hscale hplaces
  have hshift : 0 < den <<< s := by
    rw [Nat.shiftLeft_eq]
    positivity
  refine (Nat.min_le_right _ _).trans ?_
  rcases hscale.lt_or_eq with hs | rfl
  · -- at a smaller exponent, at most the first magnitude of the next one
    have hround := roundQuotient_le hshift hplaces.le
    have hnext : (s + 1) * leadingBit ≤ E * leadingBit := Nat.mul_le_mul_right _ hs
    rw [Nat.add_mul] at hnext
    omega
  · have hround : roundQuotient num (den <<< s) ≤ M := by
      refine roundQuotient_le hshift ?_
      rw [Nat.shiftLeft_eq]
      calc num ≤ M * 2 ^ s * den := h
        _ = M * (den * 2 ^ s) := by ring
    omega

lemma le_roundQuotient {k : ℕ} (hden : 0 < den) (h : k * den ≤ num) : k ≤ roundQuotient num den := by
  have hkq : k ≤ num / den := (Nat.le_div_iff_mul_le hden).2 h
  unfold roundQuotient
  simp only
  split_ifs <;> omega

/-- **Rounding keeps a lower bound** that is itself the value of a magnitude. -/
theorem le_roundUnits {m : ℕ} (hden : 0 < den) (hm : m ≤ infinityMagnitude)
    (h : units m * den ≤ num) : m ≤ roundUnits num den := by
  obtain ⟨E, M, rfl, hM, hlt⟩ := exists_significand m
  rw [units_significand hM hlt.le] at h
  have hL : leadingBit = 2 ^ 52 := by decide
  have hscale : E ≤ (num / den).log2 - 52 := by
    rcases hM with rfl | hM
    · exact Nat.zero_le _
    · have hle : 2 ^ (52 + E) ≤ num / den := by
        rw [Nat.le_div_iff_mul_le hden, pow_add, ← hL]
        exact (Nat.mul_le_mul_right _ (Nat.mul_le_mul_right _ hM)).trans h
      have hpos : num / den ≠ 0 := (Nat.lt_of_lt_of_le (by positivity) hle).ne'
      have hlog := (Nat.le_log2 hpos).2 hle
      omega
  have hplaces : (num / den).log2 - 52 ≠ 0 →
      leadingBit * (den <<< ((num / den).log2 - 52)) ≤ num := by
    intro hs
    have hpos : num / den ≠ 0 := by
      intro hzero
      rw [hzero] at hs
      exact hs rfl
    have hle : 2 ^ (52 + ((num / den).log2 - 52)) ≤ num / den :=
      (Nat.le_log2 hpos).1 (by omega)
    rw [Nat.le_div_iff_mul_le hden, pow_add, ← hL] at hle
    rw [Nat.shiftLeft_eq]
    calc leadingBit * (den * 2 ^ ((num / den).log2 - 52))
        = leadingBit * 2 ^ ((num / den).log2 - 52) * den := by ring
      _ ≤ num := hle
  unfold roundUnits
  generalize (num / den).log2 - 52 = s at hscale hplaces
  have hshift : 0 < den <<< s := by
    rw [Nat.shiftLeft_eq]
    positivity
  refine le_min hm ?_
  rcases hscale.lt_or_eq with hs | rfl
  · -- at a larger exponent, at least the first magnitude of it
    have hround := le_roundQuotient hshift (hplaces (by omega))
    have hnext : (E + 1) * leadingBit ≤ s * leadingBit := Nat.mul_le_mul_right _ hs
    rw [Nat.add_mul] at hnext
    omega
  · have hround : M ≤ roundQuotient num (den <<< E) := by
      refine le_roundQuotient hshift ?_
      rw [Nat.shiftLeft_eq]
      calc M * (den * 2 ^ E) = M * 2 ^ E * den := by ring
        _ ≤ num := h
    omega

/-- The value of a magnitude is rounded to this magnitude. -/
lemma roundUnits_units {m : ℕ} (hden : 0 < den) (hm : m ≤ infinityMagnitude) :
    roundUnits (units m * den) den = m :=
  Nat.le_antisymm (roundUnits_le hden le_rfl) (le_roundUnits hden hm le_rfl)

end Bounds

/-! ### Sums of halves -/

def largestMagnitude : ℕ := infinityMagnitude - 1

section Halves

variable {x y : Binary64}

lemma magnitude_le_of_isFinite (h : x.isFinite = true) : x.magnitude ≤ largestMagnitude := by
  have hlt : x.magnitude < infinityMagnitude := of_decide_eq_true h
  unfold largestMagnitude
  omega

lemma isFinite_of_magnitude_le (h : x.magnitude ≤ largestMagnitude) : x.isFinite = true := by
  have hpos : 0 < infinityMagnitude := by decide
  have hlt : x.magnitude < infinityMagnitude := by
    unfold largestMagnitude at h
    omega
  exact decide_eq_true hlt

lemma isNaN_of_isFinite (h : x.isFinite = true) : x.isNaN = false := by
  have hlt : x.magnitude < infinityMagnitude := of_decide_eq_true h
  exact decide_eq_false (by omega)

lemma isInfinite_of_isFinite (h : x.isFinite = true) : x.isInfinite = false := by
  have hlt : x.magnitude < infinityMagnitude := of_decide_eq_true h
  exact decide_eq_false (by omega)

lemma half_eq (h : x.isFinite = true) :
    x / ofNat 2 = ofUnits x.negative (units x.magnitude * unitsPerOne) (2 * unitsPerOne) := by
  have htwo : (ofNat 2).negative = false ∧ (ofNat 2).isNaN = false ∧
      (ofNat 2).isInfinite = false ∧ (ofNat 2).isZero = false := by decide +kernel
  have hunits : units (ofNat 2).magnitude = 2 * unitsPerOne := by decide +kernel
  obtain ⟨hsign, hnan, hinfinite, hzero⟩ := htwo
  show div x (ofNat 2) = _
  unfold div
  simp [isNaN_of_isFinite h, isInfinite_of_isFinite h, hsign, hnan, hinfinite, hzero, hunits]

lemma units_largestMagnitude :
    units largestMagnitude = 2 * units (largestMagnitude - leadingBit) := by decide +kernel

/-- Half of a finite number lies an exponent below the largest one. -/
lemma magnitude_half_le (h : x.isFinite = true) :
    (x / ofNat 2).magnitude ≤ largestMagnitude - leadingBit := by
  have hone : 0 < unitsPerOne := by decide +kernel
  have hle : units x.magnitude ≤ 2 * units (largestMagnitude - leadingBit) :=
    units_largestMagnitude ▸ units_strictMono.monotone (magnitude_le_of_isFinite h)
  rw [half_eq h]
  refine roundUnits_le (Nat.mul_pos two_pos hone) ?_
  calc units x.magnitude * unitsPerOne
      ≤ 2 * units (largestMagnitude - leadingBit) * unitsPerOne := Nat.mul_le_mul_right _ hle
    _ = units (largestMagnitude - leadingBit) * (2 * unitsPerOne) := by ring

lemma isFinite_half (h : x.isFinite = true) : (x / ofNat 2).isFinite = true :=
  isFinite_of_magnitude_le ((magnitude_half_le h).trans (Nat.sub_le _ _))

lemma signedUnits_ofUnits (negative : Bool) (num den : ℕ) :
    (ofUnits negative num den).signedUnits =
      if negative then -(units (roundUnits num den) : ℤ) else units (roundUnits num den) := rfl

lemma natAbs_signedUnits (x : Binary64) : x.signedUnits.natAbs = units x.magnitude := by
  unfold signedUnits
  split_ifs <;> simp

/-- Finite numbers are added exactly and rounded once. -/
lemma add_of_isFinite (hx : x.isFinite = true) (hy : y.isFinite = true) :
    x + y = if x.signedUnits + y.signedUnits = 0 then zero (x.negative && y.negative)
      else ofUnits (x.signedUnits + y.signedUnits < 0) (x.signedUnits + y.signedUnits).natAbs 1 := by
  show add x y = _
  unfold add
  simp [isNaN_of_isFinite hx, isNaN_of_isFinite hy, isInfinite_of_isFinite hx,
    isInfinite_of_isFinite hy]

lemma isFinite_add (hx : x.isFinite = true) (hy : y.isFinite = true)
    (h : units x.magnitude + units y.magnitude ≤ units largestMagnitude) :
    (x + y).isFinite = true := by
  rw [add_of_isFinite hx hy]
  split_ifs with hzero
  · exact isFinite_of_magnitude_le (Nat.zero_le _)
  · refine isFinite_of_magnitude_le (roundUnits_le one_pos ?_)
    have habs := Int.natAbs_add_le x.signedUnits y.signedUnits
    rw [natAbs_signedUnits, natAbs_signedUnits] at habs
    omega

/-- **The halves of two finite numbers have a finite sum.** -/
theorem isFinite_add_halves (hx : x.isFinite = true) (hy : y.isFinite = true) :
    (x / ofNat 2 + y / ofNat 2).isFinite = true := by
  have hxle := units_strictMono.monotone (magnitude_half_le hx)
  have hyle := units_strictMono.monotone (magnitude_half_le hy)
  have hdouble := units_largestMagnitude
  exact isFinite_add (isFinite_half hx) (isFinite_half hy) (by omega)

example :
    let largest : Binary64 := ⟨false, largestMagnitude, by decide⟩
    largest / ofNat 2 + largest / ofNat 2 = largest ∧ (largest + largest).isFinite = false := by
  decide +kernel

end Halves

/-! ### The value of a half -/

section Values

variable {x y z : Binary64}

lemma two_mul_roundQuotient (n : ℕ) :
    2 * roundQuotient n 2 = if n % 4 = 1 then n - 1 else if n % 4 = 3 then n + 1 else n := by
  unfold roundQuotient
  simp only
  split_ifs <;> omega

/-- Small numbers lose the half of an odd unit. -/
lemma roundUnits_half_small {m : ℕ} (h : m < 2 * leadingBit) :
    roundUnits (m * unitsPerOne) (2 * unitsPerOne) = roundQuotient m 2 := by
  have hone : 0 < unitsPerOne := by decide +kernel
  have hL : leadingBit = 2 ^ 52 := by decide
  have hinf : leadingBit < infinityMagnitude := by decide
  have hquotient : m * unitsPerOne / (2 * unitsPerOne) = m / 2 := Nat.mul_div_mul_right _ _ hone
  have hscale : (m / 2).log2 - 52 = 0 := by
    rcases Nat.eq_zero_or_pos (m / 2) with hzero | hpos
    · simp [hzero]
    · have hlog : (m / 2).log2 < 52 := (Nat.log2_lt hpos.ne').2 (by omega)
      omega
  have hround : roundQuotient (m * unitsPerOne) (2 * unitsPerOne) = roundQuotient m 2 := by
    unfold roundQuotient
    rw [hquotient, Nat.mul_mod_mul_right, ← Nat.mul_assoc]
    simp only [Nat.mul_lt_mul_right hone]
  have hle : roundQuotient m 2 ≤ leadingBit := roundQuotient_le two_pos (by omega)
  unfold roundUnits
  simp only [hquotient, hscale, Nat.shiftLeft_zero, Nat.zero_mul, Nat.zero_add, hround]
  exact Nat.min_eq_right (by omega)

lemma units_of_le {m : ℕ} (h : m ≤ 2 * leadingBit) : units m = m := by
  simpa using units_significand (E := 0) (Or.inl rfl) h

/-- Large numbers have an even number of units. -/
lemma units_eq_two_mul {m : ℕ} (h : 2 * leadingBit ≤ m) :
    units m = 2 * units (m - leadingBit) := by
  obtain ⟨E, M, rfl, hM, hlt⟩ := exists_significand m
  obtain ⟨E, rfl⟩ : ∃ E', E = E' + 1 := by
    refine ⟨E - 1, (Nat.succ_pred ?_).symm⟩
    rintro rfl
    omega
  have hM' : leadingBit ≤ M := by omega
  have hsub : (E + 1) * leadingBit + M - leadingBit = E * leadingBit + M := by
    rw [Nat.add_mul]
    omega
  rw [hsub, units_significand hM hlt.le, units_significand (Or.inr hM') hlt.le, pow_succ]
  ring

/-- **Half of a finite number** has half of its units, a half of a unit going to the even side. -/
theorem units_half (h : x.isFinite = true) :
    units (x / ofNat 2).magnitude = roundQuotient (units x.magnitude) 2 := by
  have hone : 0 < unitsPerOne := by decide +kernel
  have hinf : x.magnitude < infinityMagnitude := of_decide_eq_true h
  have hmagnitude : (x / ofNat 2).magnitude =
      roundUnits (units x.magnitude * unitsPerOne) (2 * unitsPerOne) := by
    rw [half_eq h]
    rfl
  rw [hmagnitude]
  by_cases hsmall : x.magnitude < 2 * leadingBit
  · have hle : roundQuotient x.magnitude 2 ≤ leadingBit := roundQuotient_le two_pos (by omega)
    rw [units_of_le hsmall.le, roundUnits_half_small hsmall, units_of_le (by omega)]
  · have htwice := units_eq_two_mul (not_lt.1 hsmall)
    have hexact : units x.magnitude * unitsPerOne =
        units (x.magnitude - leadingBit) * (2 * unitsPerOne) := by
      rw [htwice]
      ring
    have hround := two_mul_roundQuotient (units x.magnitude)
    rw [hexact, roundUnits_units (Nat.mul_pos two_pos hone) (by omega)]
    split_ifs at hround <;> omega

/-- What a number of units gains if it is halved, rounded and doubled: an odd number goes to the
multiple of four next to it. -/
def drift (units : ℤ) : ℤ := if units % 4 = 1 then -1 else if units % 4 = 3 then 1 else 0

lemma two_mul_signedUnits_half (h : x.isFinite = true) :
    2 * (x / ofNat 2).signedUnits = x.signedUnits + drift x.signedUnits := by
  have hunits := units_half h
  have hround := two_mul_roundQuotient (units x.magnitude)
  have hhalf : (x / ofNat 2).signedUnits =
      if x.negative then -(units (x / ofNat 2).magnitude : ℤ) else units (x / ofNat 2).magnitude := by
    rw [half_eq h]
    exact signedUnits_ofUnits ..
  rw [hhalf, hunits]
  unfold signedUnits drift
  generalize units x.magnitude = n at hround ⊢
  generalize roundQuotient n 2 = q at hround ⊢
  cases x.negative <;> simp only [if_true, Bool.false_eq_true, if_false] <;>
    split_ifs at hround ⊢ <;> omega

/-! ### The value of a sum -/

lemma le_units_roundUnits {n m : ℕ} (hm : m ≤ infinityMagnitude) (h : units m ≤ n) :
    units m ≤ units (roundUnits n 1) :=
  units_strictMono.monotone (le_roundUnits one_pos hm (by omega))

lemma units_roundUnits_le {n m : ℕ} (h : n ≤ units m) : units (roundUnits n 1) ≤ units m :=
  units_strictMono.monotone (roundUnits_le one_pos (by omega))

lemma signedUnits_add (hx : x.isFinite = true) (hy : y.isFinite = true) :
    (x + y).signedUnits = if x.signedUnits + y.signedUnits < 0
      then -(units (roundUnits (x.signedUnits + y.signedUnits).natAbs 1) : ℤ)
      else units (roundUnits (x.signedUnits + y.signedUnits).natAbs 1) := by
  rw [add_of_isFinite hx hy]
  split_ifs with hzero hneg hneg
  · omega
  · rw [hzero]
    cases x.negative <;> cases y.negative <;> decide +kernel
  · simp [signedUnits_ofUnits, hneg]
  · simp [signedUnits_ofUnits, hneg]

/-- A sum does not fall below a finite number that its exact value does not fall below. -/
lemma le_signedUnits_add (hx : x.isFinite = true) (hy : y.isFinite = true)
    (hz : z.isFinite = true) (h : z.signedUnits ≤ x.signedUnits + y.signedUnits) :
    z.signedUnits ≤ (x + y).signedUnits := by
  have hinf : z.magnitude < infinityMagnitude := of_decide_eq_true hz
  have habs := natAbs_signedUnits z
  rw [signedUnits_add hx hy]
  split_ifs with hneg
  · have hle := units_roundUnits_le (n := (x.signedUnits + y.signedUnits).natAbs)
      (m := z.magnitude) (by omega)
    omega
  · by_cases hpos : 0 < z.signedUnits
    · have hle := le_units_roundUnits (n := (x.signedUnits + y.signedUnits).natAbs)
        hinf.le (by omega)
      omega
    · omega

/-- A sum does not pass a finite number that its exact value does not pass. -/
lemma signedUnits_add_le (hx : x.isFinite = true) (hy : y.isFinite = true)
    (hz : z.isFinite = true) (h : x.signedUnits + y.signedUnits ≤ z.signedUnits) :
    (x + y).signedUnits ≤ z.signedUnits := by
  have hinf : z.magnitude < infinityMagnitude := of_decide_eq_true hz
  have habs := natAbs_signedUnits z
  rw [signedUnits_add hx hy]
  split_ifs with hneg
  · by_cases hneg' : z.signedUnits < 0
    · have hle := le_units_roundUnits (n := (x.signedUnits + y.signedUnits).natAbs)
        hinf.le (by omega)
      omega
    · omega
  · have hle := units_roundUnits_le (n := (x.signedUnits + y.signedUnits).natAbs)
      (m := z.magnitude) (by omega)
    omega

/-- A sum of few units is exact. -/
lemma signedUnits_add_eq (hx : x.isFinite = true) (hy : y.isFinite = true)
    (h : (x.signedUnits + y.signedUnits).natAbs ≤ 2 * leadingBit) :
    (x + y).signedUnits = x.signedUnits + y.signedUnits := by
  have hinf : 2 * leadingBit ≤ infinityMagnitude := by decide
  have hround := roundUnits_units one_pos (h.trans hinf)
  rw [units_of_le h, Nat.mul_one] at hround
  rw [signedUnits_add hx hy, hround, units_of_le h]
  split_ifs <;> omega

/-- Halves lose nothing that the distance of two numbers does not make up for. -/
theorem signedUnits_add_halves_between (hx : x.isFinite = true) (hy : y.isFinite = true)
    (hle : x.signedUnits ≤ y.signedUnits)
    (h : x.signedUnits = y.signedUnits → x.signedUnits % 2 = 0) :
    x.signedUnits ≤ (x / ofNat 2 + y / ofNat 2).signedUnits ∧
      (x / ofNat 2 + y / ofNat 2).signedUnits ≤ y.signedUnits := by
  have hx2 := two_mul_signedUnits_half hx
  have hy2 := two_mul_signedUnits_half hy
  unfold drift at hx2 hy2
  constructor
  · refine le_signedUnits_add (isFinite_half hx) (isFinite_half hy) hx ?_
    split_ifs at hx2 hy2 <;> omega
  · refine signedUnits_add_le (isFinite_half hx) (isFinite_half hy) hy ?_
    split_ifs at hx2 hy2 <;> omega

/-- Twice the half of an odd number of units is another number. -/
theorem signedUnits_add_halves_of_odd (hx : x.isFinite = true) (hy : y.isFinite = true)
    (heq : x.signedUnits = y.signedUnits) (hodd : x.signedUnits % 2 = 1) :
    (x / ofNat 2 + y / ofNat 2).signedUnits = x.signedUnits + drift x.signedUnits := by
  have hx2 := two_mul_signedUnits_half hx
  have hy2 := two_mul_signedUnits_half hy
  have habs := natAbs_signedUnits x
  have hsmall : x.magnitude < 2 * leadingBit := by
    by_contra hlarge
    have heven := units_eq_two_mul (not_lt.1 hlarge)
    omega
  have hunits := units_of_le hsmall.le
  rw [← heq] at hy2
  have hdrift : -1 ≤ drift x.signedUnits ∧ drift x.signedUnits ≤ 1 := by
    unfold drift
    split_ifs <;> omega
  rw [signedUnits_add_eq (isFinite_half hx) (isFinite_half hy) (by omega)]
  omega

end Values

end SizeSweep.Binary64
