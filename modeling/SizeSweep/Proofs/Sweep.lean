import Mathlib.Tactic.Common
import SizeSweep.Sweep

/-!
The check of a sweep looks at neighbouring sizes only, and that is enough: the sizes that pass are
positive, and each is smaller than all that follow.
-/

namespace SizeSweep.Sweep

variable {sizes : List UInt64}

lemma descent?_eq_none_iff : descent? sizes = none ↔ sizes.Pairwise (· < ·) := by
  induction sizes with
  | nil => simp [descent?]
  | cons a sizes ih =>
    rcases sizes with _ | ⟨b, sizes⟩
    · simp [descent?]
    · rw [descent?, List.pairwise_cons]
      split_ifs with hle
      · simp only [false_iff, not_and]
        intro hlt
        exact absurd (hlt b (List.mem_cons_self ..)) (UInt64.not_lt.2 hle)
      · rw [ih]
        have hlt : a < b := UInt64.not_le.1 hle
        constructor
        · intro h
          refine ⟨fun c hc => ?_, h⟩
          rcases List.mem_cons.1 hc with rfl | hc
          · exact hlt
          · exact UInt64.lt_trans hlt (List.rel_of_pairwise_cons h hc)
        · exact fun h => h.2

/-- **The sizes that pass the check** are some positive ones in strictly ascending order. -/
theorem check_eq_ok_iff :
    check sizes = .ok () ↔ sizes ≠ [] ∧ 0 ∉ sizes ∧ sizes.Pairwise (· < ·) := by
  rw [← descent?_eq_none_iff]
  unfold check
  by_cases hempty : sizes = []
  · simp [hempty]
  · by_cases hzero : 0 ∈ sizes
    · simp [hempty, hzero]
    · rcases hdescent : descent? sizes with _ | ⟨previous, next⟩
      · simp [hempty, hzero]
      · simp [hempty, hzero]

lemma nodup_of_pairwise (h : sizes.Pairwise (· < ·)) : sizes.Nodup :=
  h.imp fun hlt => UInt64.ne_of_lt hlt

end SizeSweep.Sweep
