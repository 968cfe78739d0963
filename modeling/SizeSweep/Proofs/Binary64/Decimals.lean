import Mathlib.Algebra.Order.Field.Power
import Mathlib.Tactic.FieldSimp
import SizeSweep.Binary64.Printing
import SizeSweep.Binary64.Reading
import SizeSweep.Proofs.Binary64.Rounding

/-!
Decimals and the magnitudes they round to.  The shortest decimal of a positive magnitude rounds to
it: the search looks at the two neighbours of the value on each grid, and on the grid of seventeen
digits one of them lies between the midpoints, since these are further apart than the grid.  And
every decimal between the midpoints of a finite magnitude is read as that magnitude.
-/

namespace SizeSweep.Binary64

/-- The value of a decimal in units. -/
def decimalUnits (digits : ℕ) (scale : ℤ) : ℚ := digits * 10 ^ scale * unitsPerOne

lemma unitsPerOne_pos : (0 : ℚ) < unitsPerOne := by
  exact_mod_cast (by decide : 0 < unitsPerOne)

lemma unitsPerOne_eq : unitsPerOne = 2 ^ 1074 := by decide +kernel

/-- A power of ten as a quotient of two natural ones. -/
lemma zpow_mul_pow_neg (scale : ℤ) :
    (10 : ℚ) ^ scale * 10 ^ (-scale).toNat = 10 ^ scale.toNat := by
  rw [← zpow_natCast, ← zpow_natCast (10 : ℚ) scale.toNat, ← zpow_add₀ (by norm_num)]
  congr 1
  omega

/-! ### Decimals between midpoints -/

section Comparison

variable {m digits a : ℕ} {scale : ℤ}

lemma decimalUnits_mul (digits : ℕ) (scale : ℤ) :
    2 * decimalUnits digits scale * 10 ^ (-scale).toNat =
      ((2 * digits * 10 ^ scale.toNat * unitsPerOne : ℕ) : ℚ) := by
  unfold decimalUnits
  push_cast
  rw [← zpow_mul_pow_neg scale]
  ring

lemma le_decimalUnits_iff :
    (a : ℚ) / 2 ≤ decimalUnits digits scale ↔
      a * 10 ^ (-scale).toNat ≤ 2 * digits * 10 ^ scale.toNat * unitsPerOne := by
  have hpow : (0 : ℚ) < 10 ^ (-scale).toNat := by positivity
  rw [← Nat.cast_le (α := ℚ), ← decimalUnits_mul, Nat.cast_mul, Nat.cast_pow, Nat.cast_ofNat,
    mul_le_mul_iff_of_pos_right hpow, div_le_iff₀ two_pos, mul_comm (2 : ℚ)]

lemma decimalUnits_le_iff :
    decimalUnits digits scale ≤ (a : ℚ) / 2 ↔
      2 * digits * 10 ^ scale.toNat * unitsPerOne ≤ a * 10 ^ (-scale).toNat := by
  have hpow : (0 : ℚ) < 10 ^ (-scale).toNat := by positivity
  rw [← Nat.cast_le (α := ℚ), ← decimalUnits_mul, Nat.cast_mul, Nat.cast_pow, Nat.cast_ofNat,
    mul_le_mul_iff_of_pos_right hpow, le_div_iff₀ two_pos, mul_comm (2 : ℚ)]

lemma roundsTo_iff (d : Decimal) :
    d.roundsTo m = true ↔ Nearest m (decimalUnits d.digits d.scale) := by
  have hlow : lowerMidpoint m = ((units (m - 1) + units m : ℕ) : ℚ) / 2 := by
    unfold lowerMidpoint
    push_cast
    rfl
  have hhigh : upperMidpoint m = ((units m + units (m + 1) : ℕ) : ℚ) / 2 := by
    unfold upperMidpoint
    push_cast
    rfl
  unfold Decimal.roundsTo Nearest
  rw [hlow, hhigh]
  simp only [← not_le, le_decimalUnits_iff, decimalUnits_le_iff, Nat.pow_eq]
  split_ifs <;> simp

end Comparison

/-! ### The search for the shortest decimal -/

section Search

variable {m : ℕ} {scale : ℤ}

lemma units_pos (hm : 0 < m) : 0 < units m := by
  obtain ⟨E, M, rfl, hM, hlt⟩ := exists_significand m
  rw [units_significand hM hlt.le]
  have hL : 0 < leadingBit := by decide
  rcases hM with rfl | hM
  · simpa using hm
  · exact Nat.mul_pos (by omega) (by positivity)

/-- The decimal exponent is no larger than the value allows. -/
lemma decimalExponent_le (hm : 0 < m) :
    decimalUnits 1 (decimalExponent m) ≤ units m := by
  have hpos := units_pos hm
  unfold decimalUnits decimalExponent
  simp only
  split_ifs with h
  · -- from one on, the digits of the whole part give the exponent
    set length := (Nat.toDigits 10 (units m / unitsPerOne)).length with hlength
    have hlen : 0 < length := Nat.length_toDigits_pos
    have hge : 10 ^ (length - 1) ≤ units m / unitsPerOne := by
      rcases Nat.eq_zero_or_pos (length - 1) with hzero | hprev
      · rw [hzero]
        exact Nat.div_pos h (by decide)
      · by_contra hlt
        have := (Nat.length_toDigits_le_iff (by decide) hprev).2 (not_le.1 hlt)
        omega
    rw [Nat.le_div_iff_mul_le (by decide)] at hge
    rw [show (length : ℤ) - 1 = ((length - 1 : ℕ) : ℤ) by omega, zpow_natCast, Nat.cast_one,
      one_mul]
    exact_mod_cast hge
  · -- below one, the digits of the reciprocal do
    set length := (Nat.toDigits 10 ((unitsPerOne - 1) / units m)).length with hlength
    have hlt : (unitsPerOne - 1) / units m < 10 ^ length :=
      (Nat.length_toDigits_le_iff (by decide) Nat.length_toDigits_pos).1 le_rfl
    rw [Nat.div_lt_iff_lt_mul hpos] at hlt
    have hle : (unitsPerOne : ℚ) ≤ 10 ^ length * units m := by
      exact_mod_cast (by omega : unitsPerOne ≤ 10 ^ length * units m)
    have hpow : (0 : ℚ) < 10 ^ length := by positivity
    rw [zpow_neg, zpow_natCast, Nat.cast_one, one_mul, inv_mul_le_iff₀ hpow]
    exact hle

/-- The decimal below a value and its upper neighbour enclose the value. -/
lemma below_spec (m : ℕ) (scale : ℤ) :
    decimalUnits (Decimal.below m scale).digits scale ≤ units m ∧
      (units m : ℚ) < decimalUnits ((Decimal.below m scale).digits + 1) scale := by
  unfold Decimal.below
  simp only [Nat.pow_eq]
  have hden : 0 < unitsPerOne * 10 ^ scale.toNat :=
    Nat.mul_pos (by decide) (by positivity)
  have hge := Nat.div_mul_le_self (units m * 10 ^ (-scale).toNat)
    (unitsPerOne * 10 ^ scale.toNat)
  have hlt := Nat.lt_mul_of_div_lt (Nat.lt_succ_self
    (units m * 10 ^ (-scale).toNat / (unitsPerOne * 10 ^ scale.toNat))) hden
  generalize units m * 10 ^ (-scale).toNat / (unitsPerOne * 10 ^ scale.toNat) = k at hge hlt
  have hhalf : (units m : ℚ) = ((2 * units m : ℕ) : ℚ) / 2 := by
    push_cast
    ring
  rw [hhalf, ← not_le, decimalUnits_le_iff, decimalUnits_le_iff, not_le]
  constructor
  · nlinarith
  · nlinarith

lemma roundsTo_of_onGrid? {d : Decimal} (h : Decimal.onGrid? m scale = some d) :
    d.roundsTo m = true := by
  unfold Decimal.onGrid? at h
  simp only at h
  split at h
  · rename_i hbelow habove
    split_ifs at h <;> cases h
    · exact habove
    · exact hbelow
  · rename_i hbelow _
    cases h
    exact hbelow
  · rename_i _ habove
    cases h
    exact habove
  · cases h

/-- A grid finer than the distance of the midpoints has a decimal between them. -/
lemma onGrid?_ne_none (hm : 0 < m)
    (hgrid : decimalUnits 1 scale < upperMidpoint m - lowerMidpoint m) :
    Decimal.onGrid? m scale ≠ none := by
  obtain ⟨hbelow, habove⟩ := below_spec m scale
  have hstep : decimalUnits ((Decimal.below m scale).digits + 1) scale =
      decimalUnits (Decimal.below m scale).digits scale + decimalUnits 1 scale := by
    unfold decimalUnits
    push_cast
    ring
  have hlow := lowerMidpoint_lt_units hm
  have hhigh := units_lt_upperMidpoint m
  have hone : (Decimal.below m scale).roundsTo m = true ∨
      (⟨(Decimal.below m scale).digits + 1, scale⟩ : Decimal).roundsTo m = true := by
    rw [roundsTo_iff, roundsTo_iff]
    by_contra hnone
    obtain ⟨hb, ha⟩ := not_or.1 hnone
    -- the lower neighbour is not above the lower midpoint, nor the upper one below the upper
    have hb' : decimalUnits (Decimal.below m scale).digits scale ≤ lowerMidpoint m :=
      not_lt.1 fun hlt => hb (nearest_of_lt hlt (lt_of_le_of_lt hbelow hhigh))
    have ha' : upperMidpoint m ≤ decimalUnits ((Decimal.below m scale).digits + 1) scale :=
      not_lt.1 fun hlt => ha (nearest_of_lt (hlow.trans habove) hlt)
    linarith
  unfold Decimal.onGrid?
  simp only
  rcases hone with h | h
  · rw [h]
    split <;> simp_all
  · rw [h]
    split <;> simp_all

/-- The midpoints of a magnitude are more than a `10 ^ 16`-th of its value apart. -/
lemma units_lt_mul_width (hm : 0 < m) :
    (units m : ℚ) < 10 ^ 16 * (upperMidpoint m - lowerMidpoint m) := by
  obtain ⟨E, M, rfl, hM, hlt⟩ := exists_significand m
  have hpow : (0 : ℚ) < 2 ^ E := by positivity
  have hbound : (M : ℚ) < 2 * 2 ^ 52 := by
    exact_mod_cast (show M < 2 * 2 ^ 52 from hlt)
  rw [upperMidpoint_significand hM hlt, units_significand hM hlt.le]
  push_cast
  by_cases hfirst : E = 0 ∨ leadingBit < M
  · have hpos : 0 < M := by
      rcases hM with rfl | hM
      · simpa using hm
      · exact lt_of_lt_of_le (by decide) hM
    rw [lowerMidpoint_significand hpos hfirst hlt]
    nlinarith
  · obtain ⟨E, rfl⟩ : ∃ E', E = E' + 1 := ⟨E - 1, by omega⟩
    obtain rfl : M = leadingBit := by omega
    rw [lowerMidpoint_leadingBit]
    have hL : (leadingBit : ℚ) = 2 ^ 52 := by exact_mod_cast (by decide : leadingBit = 2 ^ 52)
    rw [hL]
    nlinarith

/-- **The shortest decimal rounds to its magnitude.** -/
theorem nearest_shortest (hm : 0 < m) :
    Nearest m (decimalUnits (Decimal.shortest m).digits (Decimal.shortest m).scale) := by
  rw [← roundsTo_iff]
  unfold Decimal.shortest
  simp only
  set top := decimalExponent m with htop
  -- the grid of seventeen digits has a hit, so the search ends on some grid
  have hlast : Decimal.onGrid? m (top - (16 : ℕ)) ≠ none := by
    refine onGrid?_ne_none hm ?_
    have hgrid : decimalUnits 1 (top - (16 : ℕ)) * 10 ^ 16 = decimalUnits 1 top := by
      unfold decimalUnits
      rw [zpow_sub₀ (by norm_num)]
      push_cast
      ring
    have hle := decimalExponent_le hm
    have hlt := units_lt_mul_width hm
    linarith
  rcases hfind : (List.range 17).findSome? fun n : ℕ => Decimal.onGrid? m (top - n) with _ | d
  · exact absurd (List.findSome?_eq_none_iff.1 hfind 16 (by simp)) hlast
  · obtain ⟨n, -, hn⟩ := List.exists_of_findSome?_eq_some hfind
    exact roundsTo_of_onGrid? hn

end Search

/-! ### Reading a decimal -/

section Reading

variable {m digits : ℕ} {scale : ℤ}

lemma lowerMidpoint_ge_half (hm : 0 < m) : 1 / 2 ≤ lowerMidpoint m := by
  have hpos : (1 : ℚ) ≤ units m := by exact_mod_cast units_pos hm
  have hprev : (0 : ℚ) ≤ units (m - 1) := by positivity
  unfold lowerMidpoint
  linarith

/-- Half a place above the largest finite magnitude lies below `2 ^ 1024`. -/
lemma upperMidpoint_lt (hfin : m < infinityMagnitude) :
    upperMidpoint m < 2 ^ 1024 * unitsPerOne := by
  obtain ⟨E, M, rfl, hM, hlt⟩ := exists_significand m
  have hL : leadingBit = 2 ^ 52 := by decide
  have hE : E ≤ 2045 := by
    by_contra hE
    have : 2046 * leadingBit ≤ E * leadingBit := Nat.mul_le_mul_right _ (by omega)
    unfold infinityMagnitude at hfin
    omega
  have hbound : (M : ℚ) + 1 ≤ 2 ^ 53 := by
    have : M + 1 ≤ 2 ^ 53 := by omega
    exact_mod_cast this
  have hlast : (2 : ℚ) ^ 53 * 2 ^ 2045 = 2 ^ 1024 * 2 ^ 1074 := by
    rw [← pow_add, ← pow_add]
  have hunits : (unitsPerOne : ℚ) = 2 ^ 1074 := by
    rw [unitsPerOne_eq, Nat.cast_pow, Nat.cast_ofNat]
  rw [upperMidpoint_significand hM hlt, hunits, ← hlast]
  have hpow : (2 : ℚ) ^ E ≤ 2 ^ 2045 := pow_le_pow_right₀ (by norm_num) hE
  generalize (2 : ℚ) ^ 2045 = top at hpow
  have hpos : (0 : ℚ) < 2 ^ E := by positivity
  nlinarith

lemma decimalUnits_mono {digits' : ℕ} {scale' : ℤ}
    (h : (digits : ℚ) * 10 ^ scale ≤ digits' * 10 ^ scale') :
    decimalUnits digits scale ≤ decimalUnits digits' scale' :=
  mul_le_mul_of_nonneg_right h unitsPerOne_pos.le

lemma decimalUnits_strictMono {digits' : ℕ} {scale' : ℤ}
    (h : (digits : ℚ) * 10 ^ scale < digits' * 10 ^ scale') :
    decimalUnits digits scale < decimalUnits digits' scale' :=
  mul_lt_mul_of_pos_right h unitsPerOne_pos

lemma decimalUnits_one_mono {scale' : ℤ} (h : scale ≤ scale') :
    decimalUnits 1 scale ≤ decimalUnits 1 scale' := by
  refine decimalUnits_mono ?_
  rw [Nat.cast_one, one_mul, one_mul]
  exact zpow_le_zpow_right₀ (by norm_num) h

lemma decimalUnits_ge (h : digits ≠ 0) (scale : ℤ) :
    decimalUnits 1 (scale + (Nat.toDigits 10 digits).length - 1) ≤ decimalUnits digits scale := by
  set length := (Nat.toDigits 10 digits).length with hlength
  have hlen : 0 < length := Nat.length_toDigits_pos
  have hge : 10 ^ (length - 1) ≤ digits := by
    rcases Nat.eq_zero_or_pos (length - 1) with hzero | hprev
    · rw [hzero]
      omega
    · by_contra hlt
      have := (Nat.length_toDigits_le_iff (by decide) hprev).2 (not_le.1 hlt)
      omega
  have hgeQ : (10 : ℚ) ^ (length - 1) ≤ digits := by exact_mod_cast hge
  refine decimalUnits_mono ?_
  rw [show scale + length - 1 = ((length - 1 : ℕ) : ℤ) + scale by omega,
    zpow_add₀ (by norm_num), zpow_natCast, Nat.cast_one, one_mul]
  gcongr

lemma decimalUnits_lt (digits : ℕ) (scale : ℤ) :
    decimalUnits digits scale < decimalUnits 1 (scale + (Nat.toDigits 10 digits).length) := by
  set length := (Nat.toDigits 10 digits).length with hlength
  have hlt : digits < 10 ^ length :=
    (Nat.length_toDigits_le_iff (by decide) Nat.length_toDigits_pos).1 le_rfl
  have hltQ : (digits : ℚ) < 10 ^ length := by exact_mod_cast hlt
  refine decimalUnits_strictMono ?_
  rw [add_comm scale, zpow_add₀ (by norm_num), zpow_natCast, Nat.cast_one, one_mul]
  gcongr

/-- The numerals that are read as infinity without rounding are beyond every finite number. -/
lemma two_pow_le_decimalUnits : 2 ^ 1024 * (unitsPerOne : ℚ) ≤ decimalUnits 1 310 := by
  refine mul_le_mul_of_nonneg_right ?_ unitsPerOne_pos.le
  have : 2 ^ 1024 ≤ 10 ^ 310 := by decide +kernel
  rw [Nat.cast_one, one_mul]
  exact_mod_cast this

/-- The numerals that are read as zero without rounding are nearer to it than to any other
number. -/
lemma decimalUnits_lt_half : decimalUnits 1 (-331) < 1 / 2 := by
  have h : 2 * unitsPerOne < 10 ^ 331 := by decide +kernel
  have hQ : 2 * (unitsPerOne : ℚ) < 10 ^ 331 := by exact_mod_cast h
  have hscale : (10 : ℚ) ^ (-331 : ℤ) = (10 ^ 331)⁻¹ := by
    rw [zpow_neg]
    rfl
  unfold decimalUnits
  rw [Nat.cast_one, one_mul, hscale]
  generalize (10 : ℚ) ^ 331 = top at hQ ⊢
  have htop : 0 < top := by
    have := unitsPerOne_pos
    linarith
  rw [inv_mul_lt_iff₀ htop]
  linarith

/-- **A decimal is read as the magnitude that it is nearest to.** -/
theorem decimalMagnitude_of_nearest (hm : 0 < m) (hfin : m < infinityMagnitude)
    (h : Nearest m (decimalUnits digits scale)) : decimalMagnitude digits scale = m := by
  have hlow := (lowerMidpoint_ge_half hm).trans h.bounds.1
  have hhigh := lt_of_le_of_lt h.bounds.2 (upperMidpoint_lt hfin)
  have hdigits : digits ≠ 0 := by
    rintro rfl
    simp only [decimalUnits, Nat.cast_zero, zero_mul] at hlow
    linarith
  unfold decimalMagnitude
  simp only
  rw [if_neg hdigits]
  split_ifs with hlarge hsmall
  · -- so large an exponent would put the value above all finite numbers
    have hge := decimalUnits_ge hdigits scale
    have hmono : decimalUnits 1 310 ≤
        decimalUnits 1 (scale + (Nat.toDigits 10 digits).length - 1) :=
      decimalUnits_one_mono (by omega)
    exact absurd hhigh (not_lt.2 (two_pow_le_decimalUnits.trans (hmono.trans hge)))
  · -- so small an exponent would put it below half of the first magnitude
    have hlt := decimalUnits_lt digits scale
    have hmono : decimalUnits 1 (scale + (Nat.toDigits 10 digits).length) ≤
        decimalUnits 1 (-331) :=
      decimalUnits_one_mono (by omega)
    exact absurd hlow (not_le.2 (hlt.trans_le (hmono.trans decimalUnits_lt_half.le)))
  · refine roundUnits_of_nearest hm hfin (Nat.pow_pos (by decide)) ?_
    have hvalue : ((digits * Nat.pow 10 scale.toNat * unitsPerOne : ℕ) : ℚ) /
        ((Nat.pow 10 (-scale).toNat : ℕ) : ℚ) = decimalUnits digits scale := by
      unfold decimalUnits
      simp only [Nat.pow_eq]
      push_cast
      rw [← zpow_mul_pow_neg scale]
      field_simp
    rwa [hvalue]

end Reading

end SizeSweep.Binary64
