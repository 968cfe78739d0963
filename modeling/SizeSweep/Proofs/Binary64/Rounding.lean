import Mathlib.Algebra.Order.Field.Basic
import Mathlib.Data.Rat.Cast.Order
import Mathlib.Tactic.Linarith
import Mathlib.Tactic.NormNum
import Mathlib.Tactic.Ring
import SizeSweep.Binary64.Basic

/-!
Rounding reaches the nearest magnitude.  A positive magnitude is an exponent and a significand, its
neighbours are half a place away on either side, and every value between the two midpoints is
rounded to it, a midpoint itself only if the magnitude is even.
-/

namespace SizeSweep.Binary64

/-! ### Significands -/

/-- The value of a significand `M` at an exponent `E`.  The significand `2 * leadingBit` stands for
the first magnitude of the next exponent. -/
lemma units_significand {E M : ℕ} (hM : E = 0 ∨ leadingBit ≤ M) (hle : M ≤ 2 * leadingBit) :
    units (E * leadingBit + M) = M * 2 ^ E := by
  have hL : 0 < leadingBit := by decide
  unfold units
  generalize leadingBit = L at *
  split_ifs with h
  · have hE : E = 0 := by
      by_contra hE
      have := Nat.le_mul_of_pos_left L (Nat.pos_of_ne_zero hE)
      omega
    simp [hE]
  · have hML : L ≤ M := by
      rcases hM with rfl | hM
      · simpa using h
      · exact hM
    rw [Nat.shiftLeft_eq, Nat.add_comm (E * L), Nat.add_mul_mod_self_right,
      Nat.add_mul_div_right _ _ hL]
    rcases hle.lt_or_eq with hlt | rfl
    · have hdiv : M / L = 1 := Nat.div_eq_of_lt_le (by omega) (by omega)
      have hmod : M % L = M - L := by
        rw [Nat.mod_eq_sub_mod hML, Nat.mod_eq_of_lt (by omega)]
      rw [hdiv, hmod, show 1 + E - 1 = E by omega, show L + (M - L) = M by omega]
    · -- the significand is twice the first one and carries over to the next exponent
      rw [Nat.mul_mod_left, Nat.mul_div_cancel _ hL, show 2 + E - 1 = E + 1 by omega, pow_succ]
      ring

/-- Every magnitude has an exponent and a significand, of full length unless the exponent is 0. -/
lemma exists_significand (m : ℕ) :
    ∃ E M, m = E * leadingBit + M ∧ (E = 0 ∨ leadingBit ≤ M) ∧ M < 2 * leadingBit := by
  have hL : 0 < leadingBit := by decide
  by_cases h : m < leadingBit
  · exact ⟨0, m, by simp, Or.inl rfl, by omega⟩
  · have hdiv : 0 < m / leadingBit := Nat.div_pos (by omega) hL
    have hmod := Nat.mod_lt m hL
    refine ⟨m / leadingBit - 1, leadingBit + m % leadingBit, ?_, Or.inr (by omega), by omega⟩
    obtain ⟨E, hE⟩ : ∃ E, m / leadingBit = E + 1 := ⟨m / leadingBit - 1, by omega⟩
    have hsplit := Nat.div_add_mod' m leadingBit
    rw [hE] at hsplit ⊢
    rw [Nat.add_sub_cancel]
    linarith

/-! ### Midpoints -/

/-- The middle between a magnitude and the one below it, in units. -/
def lowerMidpoint (m : ℕ) : ℚ := (units (m - 1) + units m) / 2

def upperMidpoint (m : ℕ) : ℚ := (units m + units (m + 1)) / 2

/-- The values, in units, whose nearest magnitude is `m`. -/
def Nearest (m : ℕ) (x : ℚ) : Prop :=
  if m % 2 = 0 then lowerMidpoint m ≤ x ∧ x ≤ upperMidpoint m
  else lowerMidpoint m < x ∧ x < upperMidpoint m

section Midpoints

variable {m E M : ℕ}

lemma Nearest.bounds {x : ℚ} (h : Nearest m x) : lowerMidpoint m ≤ x ∧ x ≤ upperMidpoint m := by
  unfold Nearest at h
  split_ifs at h
  · exact h
  · exact ⟨h.1.le, h.2.le⟩

lemma Nearest.strict {x : ℚ} (h : Nearest m x) (hm : m % 2 = 1) :
    lowerMidpoint m < x ∧ x < upperMidpoint m := by
  unfold Nearest at h
  rwa [if_neg (by omega)] at h

lemma nearest_of_lt {x : ℚ} (hlow : lowerMidpoint m < x) (hhigh : x < upperMidpoint m) :
    Nearest m x := by
  unfold Nearest
  split_ifs
  · exact ⟨hlow.le, hhigh.le⟩
  · exact ⟨hlow, hhigh⟩

lemma upperMidpoint_significand (hM : E = 0 ∨ leadingBit ≤ M) (hlt : M < 2 * leadingBit) :
    upperMidpoint (E * leadingBit + M) = (M + 1 / 2) * 2 ^ E := by
  unfold upperMidpoint
  rw [add_assoc, units_significand hM hlt.le, units_significand (by omega) (by omega)]
  push_cast
  ring

lemma lowerMidpoint_significand (hpos : 0 < M) (hM : E = 0 ∨ leadingBit < M)
    (hlt : M < 2 * leadingBit) :
    lowerMidpoint (E * leadingBit + M) = (M - 1 / 2) * 2 ^ E := by
  unfold lowerMidpoint
  rw [Nat.add_sub_assoc hpos, units_significand (by omega) hlt.le,
    units_significand (by omega) (by omega)]
  push_cast [Nat.cast_sub hpos]
  ring

/-- Below the first significand of an exponent the magnitudes stand twice as close. -/
lemma lowerMidpoint_leadingBit :
    lowerMidpoint ((E + 1) * leadingBit + leadingBit) = (leadingBit - 1 / 4) * 2 ^ (E + 1) := by
  have hL : 0 < leadingBit := by decide
  have hprev : (E + 1) * leadingBit + leadingBit - 1 = E * leadingBit + (2 * leadingBit - 1) := by
    rw [Nat.add_mul]
    omega
  unfold lowerMidpoint
  rw [hprev, units_significand (by omega) (by omega), units_significand (by omega) (by omega)]
  push_cast [Nat.cast_sub (show 1 ≤ 2 * leadingBit by omega), pow_succ]
  ring

lemma units_lt_upperMidpoint (m : ℕ) : (units m : ℚ) < upperMidpoint m := by
  obtain ⟨E, M, rfl, hM, hlt⟩ := exists_significand m
  have hpow : (0 : ℚ) < 2 ^ E := by positivity
  rw [upperMidpoint_significand hM hlt, units_significand hM hlt.le]
  push_cast
  linarith

lemma lowerMidpoint_lt_units (hm : 0 < m) : lowerMidpoint m < units m := by
  obtain ⟨E, M, rfl, hM, hlt⟩ := exists_significand m
  have hpow : (0 : ℚ) < 2 ^ E := by positivity
  rw [units_significand hM hlt.le]
  push_cast
  rcases hM with rfl | hM
  · rw [lowerMidpoint_significand (by omega) (Or.inl rfl) hlt]
    linarith
  · rcases hM.lt_or_eq with hM | rfl
    · rw [lowerMidpoint_significand (by omega) (Or.inr hM) hlt]
      linarith
    · rcases E with _ | E
      · rw [lowerMidpoint_significand (by decide) (Or.inl rfl) hlt]
        linarith
      · rw [lowerMidpoint_leadingBit]
        linarith

end Midpoints

/-! ### Rounding a quotient -/

lemma roundQuotient_eq {num den k : ℕ} (hlow : 2 * k * den ≤ 2 * num + den)
    (hhigh : 2 * num ≤ 2 * k * den + den)
    (hodd : k % 2 = 1 → 2 * k * den < 2 * num + den ∧ 2 * num < 2 * k * den + den)
    (hden : 0 < den) : roundQuotient num den = k := by
  have hsplit := Nat.div_add_mod' num den
  have hmod := Nat.mod_lt num hden
  unfold roundQuotient
  generalize num / den = q at *
  generalize num % den = r at *
  have hqk : q ≤ k := by
    by_contra hlt
    have : (k + 1) * den ≤ q * den := Nat.mul_le_mul_right _ (by omega)
    nlinarith
  have hkq : k ≤ q + 1 := by
    by_contra hlt
    have : (q + 2) * den ≤ k * den := Nat.mul_le_mul_right _ (by omega)
    nlinarith
  rcases (show q = k ∨ k = q + 1 by omega) with rfl | rfl
  · -- the quotient itself: at most half of the divisor is left
    have hr : 2 * r ≤ den := by nlinarith
    have htie : q % 2 = 1 → 2 * r < den := fun h => by nlinarith [(hodd h).2]
    simp only
    split_ifs <;> omega
  · -- the next one: at least half of the divisor is left
    have hr : den ≤ 2 * r := by nlinarith
    have htie : (q + 1) % 2 = 1 → den < 2 * r := fun h => by nlinarith [(hodd h).1]
    simp only
    split_ifs <;> omega

section RoundUnits

variable {num den E M : ℕ}

/-- How many binary places of a quotient lie beyond the 53 of a significand. -/
lemma log2_sub_eq (hden : 0 < den) (hlow : E = 0 ∨ leadingBit * 2 ^ E * den ≤ num)
    (hhigh : num < 2 * leadingBit * 2 ^ E * den) : (num / den).log2 - 52 = E := by
  have hL : leadingBit = 2 ^ 52 := by decide
  rw [hL] at hlow hhigh
  have hlt : num / den < 2 ^ (53 + E) := by
    rw [Nat.div_lt_iff_lt_mul hden, pow_add]
    calc num < 2 * 2 ^ 52 * 2 ^ E * den := hhigh
      _ = 2 ^ 53 * 2 ^ E * den := by norm_num
  rcases Nat.eq_zero_or_pos (num / den) with hzero | hpos
  · rcases hlow with rfl | hlow
    · simp [hzero]
    · have : 0 < num / den := Nat.div_pos (le_trans (Nat.le_mul_of_pos_left _ (by positivity)) hlow)
        hden
      omega
  · have hlog : (num / den).log2 < 53 + E := (Nat.log2_lt hpos.ne').2 hlt
    rcases hlow with rfl | hlow
    · omega
    · have : 52 + E ≤ (num / den).log2 := by
        rw [Nat.le_log2 hpos.ne', Nat.le_div_iff_mul_le hden, pow_add]
        exact hlow
      omega

lemma roundUnits_eq (hfin : E * leadingBit + M < infinityMagnitude)
    (hscale : (num / den).log2 - 52 = E) (hround : roundQuotient num (den <<< E) = M) :
    roundUnits num den = E * leadingBit + M := by
  unfold roundUnits
  simp only [hscale, hround]
  omega

lemma significand_odd (h : M % 2 = 1) : (E * leadingBit + M) % 2 = 1 := by
  have : E * leadingBit % 2 = 0 := by
    rw [Nat.mul_mod, show leadingBit % 2 = 0 by decide, Nat.mul_zero]
  omega

/-- A value at the exponent of the magnitude. -/
lemma roundQuotient_of_nearest (hden : 0 < den) (hpos : 0 < M) (hM : E = 0 ∨ leadingBit ≤ M)
    (hlt : M < 2 * leadingBit) (hscale : E = 0 ∨ leadingBit * 2 ^ E * den ≤ num)
    (h : Nearest (E * leadingBit + M) ((num : ℚ) / den)) :
    roundQuotient num (den <<< E) = M := by
  have hdenQ : (0 : ℚ) < den := by exact_mod_cast hden
  rw [Nat.shiftLeft_eq]
  by_cases hfirst : E = 0 ∨ leadingBit < M
  · have hlow := h.bounds.1
    have hhigh := h.bounds.2
    rw [upperMidpoint_significand hM hlt, div_le_iff₀ hdenQ] at hhigh
    rw [lowerMidpoint_significand hpos hfirst hlt, le_div_iff₀ hdenQ] at hlow
    refine roundQuotient_eq ?_ ?_ (fun hodd => ?_) (by positivity)
    · have : (2 * M * (den * 2 ^ E) : ℚ) ≤ 2 * num + den * 2 ^ E := by linarith
      exact_mod_cast this
    · have : (2 * num : ℚ) ≤ 2 * M * (den * 2 ^ E) + den * 2 ^ E := by linarith
      exact_mod_cast this
    · obtain ⟨hlow, hhigh⟩ := h.strict (significand_odd hodd)
      rw [upperMidpoint_significand hM hlt, div_lt_iff₀ hdenQ] at hhigh
      rw [lowerMidpoint_significand hpos hfirst hlt, lt_div_iff₀ hdenQ] at hlow
      have h₁ : (2 * M * (den * 2 ^ E) : ℚ) < 2 * num + den * 2 ^ E := by linarith
      have h₂ : (2 * num : ℚ) < 2 * M * (den * 2 ^ E) + den * 2 ^ E := by linarith
      exact ⟨by exact_mod_cast h₁, by exact_mod_cast h₂⟩
  · -- the first significand of its exponent: the value is no smaller than the magnitude
    obtain rfl : M = leadingBit := by omega
    have hnum : leadingBit * 2 ^ E * den ≤ num := by omega
    have hhigh := h.bounds.2
    rw [upperMidpoint_significand hM hlt, div_le_iff₀ hdenQ] at hhigh
    refine roundQuotient_eq ?_ ?_ (fun hodd => ?_) (by positivity)
    · calc 2 * leadingBit * (den * 2 ^ E) = 2 * (leadingBit * 2 ^ E * den) := by ring
        _ ≤ 2 * num + den * 2 ^ E := by omega
    · have : (2 * num : ℚ) ≤ 2 * leadingBit * (den * 2 ^ E) + den * 2 ^ E := by linarith
      exact_mod_cast this
    · exact absurd hodd (by decide)

/-- A value below the first significand of an exponent is rounded up to it from the exponent
before. -/
lemma roundQuotient_of_nearest_below (hden : 0 < den)
    (h : Nearest ((E + 1) * leadingBit + leadingBit) ((num : ℚ) / den))
    (hnum : num < leadingBit * 2 ^ (E + 1) * den) :
    leadingBit * 2 ^ E * den ≤ num ∧ roundQuotient num (den <<< E) = 2 * leadingBit := by
  have hdenQ : (0 : ℚ) < den := by exact_mod_cast hden
  have hL : (1 : ℚ) ≤ leadingBit := by exact_mod_cast (by decide : 1 ≤ leadingBit)
  have hlow := h.bounds.1
  rw [lowerMidpoint_leadingBit, le_div_iff₀ hdenQ, pow_succ] at hlow
  rw [Nat.shiftLeft_eq]
  have hplace : (0 : ℚ) < 2 ^ E * den := by positivity
  have hnum' : num < 2 * leadingBit * (den * 2 ^ E) := by
    calc num < leadingBit * 2 ^ (E + 1) * den := hnum
      _ = 2 * leadingBit * (den * 2 ^ E) := by ring
  refine ⟨?_, roundQuotient_eq ?_ (by nlinarith) (fun hodd => by omega) (by positivity)⟩
  · have : (leadingBit * 2 ^ E * den : ℚ) ≤ num := by nlinarith
    exact_mod_cast this
  · have : (2 * (2 * leadingBit) * (den * 2 ^ E) : ℚ) ≤ 2 * num + den * 2 ^ E := by linarith
    exact_mod_cast this

/-- **Rounding reaches the nearest magnitude.** -/
theorem roundUnits_of_nearest {m : ℕ} (hm : 0 < m) (hfin : m < infinityMagnitude) (hden : 0 < den)
    (h : Nearest m ((num : ℚ) / den)) : roundUnits num den = m := by
  obtain ⟨E, M, rfl, hM, hlt⟩ := exists_significand m
  have hdenQ : (0 : ℚ) < den := by exact_mod_cast hden
  have hL : 0 < leadingBit := by decide
  have hpos : 0 < M := by
    rcases hM with rfl | hM
    · simpa using hm
    · omega
  have hplace : (0 : ℚ) < 2 ^ E * den := by positivity
  by_cases hscale : E = 0 ∨ leadingBit * 2 ^ E * den ≤ num
  · refine roundUnits_eq hfin (log2_sub_eq hden hscale ?_)
      (roundQuotient_of_nearest hden hpos hM hlt hscale h)
    have hhigh := h.bounds.2
    rw [upperMidpoint_significand hM hlt, div_le_iff₀ hdenQ] at hhigh
    have hM' : (M : ℚ) + 1 ≤ 2 * leadingBit := by exact_mod_cast hlt
    have : (num : ℚ) < 2 * leadingBit * 2 ^ E * den := by nlinarith
    exact_mod_cast this
  · obtain ⟨hE, hnum⟩ := not_or.1 hscale
    rw [not_le] at hnum
    obtain ⟨E, rfl⟩ : ∃ E', E = E' + 1 := ⟨E - 1, by omega⟩
    -- a longer significand would lie above the value by more than half a place
    have hML : M = leadingBit := by
      by_contra hne
      have hlow := h.bounds.1
      rw [lowerMidpoint_significand hpos (by omega) hlt, le_div_iff₀ hdenQ] at hlow
      have hM' : (leadingBit : ℚ) + 1 ≤ M := by
        exact_mod_cast (by omega : leadingBit + 1 ≤ M)
      have : (num : ℚ) < leadingBit * 2 ^ (E + 1) * den := by exact_mod_cast hnum
      nlinarith
    subst hML
    obtain ⟨hge, hround⟩ := roundQuotient_of_nearest_below hden h hnum
    have hscale' : (num / den).log2 - 52 = E := by
      refine log2_sub_eq hden (Or.inr hge) ?_
      calc num < leadingBit * 2 ^ (E + 1) * den := hnum
        _ = 2 * leadingBit * 2 ^ E * den := by ring
    have hsum : (E + 1) * leadingBit + leadingBit = E * leadingBit + 2 * leadingBit := by ring
    rw [hsum] at hfin ⊢
    exact roundUnits_eq hfin hscale' hround

end RoundUnits

end SizeSweep.Binary64
