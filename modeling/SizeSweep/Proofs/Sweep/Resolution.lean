import Mathlib.Algebra.Group.Nat.Defs
import Mathlib.Data.List.Basic
import Mathlib.Data.List.Pairwise
import Mathlib.Data.Nat.Find
import Mathlib.Order.Bounds.Basic
import SizeSweep.Experiment
import SizeSweep.Proofs.Sweep

/-!
What a sweep resolves to.  A sweep stands for the sizes that it lists, if they are positive and
ascend, or for the doublings of its base, if all of them fit in 64 bits.  Every other sweep is
refused, each for one reason.  The sizes that a sweep stands for pass the check once more, so a
plan with them is refused for its metrics or its repetitions only.
-/

namespace SizeSweep.Sweep

/-- The sizes that a sweep stands for. -/
inductive StandsFor : Sweep → List UInt64 → Prop
  | listed {sizes : List UInt64} (hsome : sizes ≠ []) (hzero : 0 ∉ sizes)
      (hlt : sizes.Pairwise (· < ·)) : StandsFor ⟨sizes, none, none⟩ sizes
  | generated {base : UInt64} {steps : UInt32} {sizes : List UInt64} (hbase : 0 < base)
      (hsteps : 0 < steps) (hfits : base.toNat * 2 ^ (steps.toNat - 1) < 2 ^ 64)
      (hsizes : sizes.map UInt64.toNat =
        (List.range steps.toNat).map fun step => base.toNat * 2 ^ step) :
      StandsFor ⟨[], some base, some steps⟩ sizes

/-- Why a sweep stands for no sizes. -/
inductive Refused : Sweep → PlanFault → Prop
  | ambiguous {sweep : Sweep} (hsome : sweep.sizes ≠ [])
      (hgenerated : sweep.base ≠ none ∨ sweep.steps ≠ none) : Refused sweep .ambiguousSweep
  | missing {sweep : Sweep} (hnone : sweep.sizes = [])
      (hgenerated : sweep.base = none ∨ sweep.steps = none) : Refused sweep .missingSweep
  | zeroBase {steps : UInt32} : Refused ⟨[], some 0, some steps⟩ .zeroSize
  | noSteps {base : UInt64} (hbase : 0 < base) : Refused ⟨[], some base, some 0⟩ .emptySweep
  | overflow {base : UInt64} {steps : UInt32} {step : ℕ} (hbase : 0 < base)
      (hstep : step < steps.toNat) (hleast : IsLeast {i | 2 ^ 64 ≤ base.toNat * 2 ^ i} step) :
      Refused ⟨[], some base, some steps⟩ (.sweepOverflow base step)
  | zeroSize {sizes : List UInt64} (hzero : 0 ∈ sizes) : Refused ⟨sizes, none, none⟩ .zeroSize
  | descent {before after : List UInt64} {previous next : UInt64}
      (hzero : 0 ∉ before ++ previous :: next :: after)
      (hlt : (before ++ [previous]).Pairwise (· < ·)) (hle : next ≤ previous) :
      Refused ⟨before ++ previous :: next :: after, none, none⟩ (.notIncreasing previous next)

/-! ### Doubling -/

section Doubling

variable {base : UInt64} {step steps : ℕ} {sizes : List UInt64}

lemma sizeAt_of_fits (h : base.toNat * 2 ^ step < 2 ^ 64) :
    sizeAt base step = .ok (.ofNat (base.toNat * 2 ^ step)) := by
  have hsize : base.toNat * 2 ^ step < UInt64.size := h
  unfold sizeAt
  rw [Nat.shiftLeft_eq, if_pos hsize]

lemma sizeAt_of_overflow (h : 2 ^ 64 ≤ base.toNat * 2 ^ step) :
    sizeAt base step = .error (.sweepOverflow base step) := by
  have hsize : ¬base.toNat * 2 ^ step < UInt64.size := Nat.not_lt.2 h
  unfold sizeAt
  rw [Nat.shiftLeft_eq, if_neg hsize]

lemma mapM_sizeAt_of_fits (h : ∀ step < steps, base.toNat * 2 ^ step < 2 ^ 64) :
    (List.range steps).mapM (sizeAt base) =
      .ok ((List.range steps).map fun step => .ofNat (base.toNat * 2 ^ step)) := by
  induction steps with
  | zero => rfl
  | succ steps ih =>
    have hbefore := ih fun step hstep => h step (hstep.trans (Nat.lt_succ_self steps))
    rw [List.range_succ, List.mapM_append, hbefore, List.mapM_cons,
      sizeAt_of_fits (h steps (Nat.lt_succ_self steps)), List.map_append]
    rfl

/-- The first step that overflows is the one that is reported. -/
lemma mapM_sizeAt_of_least (hleast : IsLeast {i | 2 ^ 64 ≤ base.toNat * 2 ^ i} step)
    (hstep : step < steps) :
    (List.range steps).mapM (sizeAt base) = .error (.sweepOverflow base step) := by
  induction steps with
  | zero => exact absurd hstep (Nat.not_lt_zero step)
  | succ steps ih =>
    rw [List.range_succ, List.mapM_append]
    rcases Nat.lt_succ_iff_lt_or_eq.1 hstep with hbefore | rfl
    · rw [ih hbefore]
      rfl
    · have hfits : ∀ i < step, base.toNat * 2 ^ i < 2 ^ 64 :=
        fun i hi => Nat.lt_of_not_le fun hle => hi.not_ge (hleast.2 hle)
      rw [mapM_sizeAt_of_fits hfits, List.mapM_cons, sizeAt_of_overflow hleast.1]
      rfl

lemma toNat_pos (hbase : 0 < base) : 0 < base.toNat := UInt64.lt_iff_toNat_lt.1 hbase

lemma two_pow_le_mul (hbase : 0 < base) (step : ℕ) : 2 ^ step ≤ base.toNat * 2 ^ step :=
  Nat.le_mul_of_pos_left _ (toNat_pos hbase)

/-- Of a positive base no size is generated from step 64 on. -/
lemma exists_least_overflow (hbase : 0 < base) :
    ∃ step ≤ 64, IsLeast {i | 2 ^ 64 ≤ base.toNat * 2 ^ i} step := by
  have hlast : ∃ i, 2 ^ 64 ≤ base.toNat * 2 ^ i := ⟨64, two_pow_le_mul hbase 64⟩
  exact ⟨Nat.find hlast, Nat.find_min' hlast (two_pow_le_mul hbase 64), Nat.find_spec hlast,
    fun i hi => Nat.find_min' hlast hi⟩

lemma fits_of_last (h : base.toNat * 2 ^ (steps - 1) < 2 ^ 64) :
    ∀ step < steps, base.toNat * 2 ^ step < 2 ^ 64 := by
  intro step hstep
  have hle : 2 ^ step ≤ 2 ^ (steps - 1) := Nat.pow_le_pow_right Nat.two_pos (by omega)
  exact (Nat.mul_le_mul_left base.toNat hle).trans_lt h

lemma steps_le_of_last (hbase : 0 < base) (h : base.toNat * 2 ^ (steps - 1) < 2 ^ 64) :
    steps ≤ 64 := by
  have hpow : 2 ^ (steps - 1) < 2 ^ 64 := (two_pow_le_mul hbase _).trans_lt h
  have hlast : steps - 1 < 64 := (Nat.pow_lt_pow_iff_right Nat.one_lt_two).1 hpow
  omega

lemma geometric_of_last (hbase : 0 < base) (h : base.toNat * 2 ^ (steps - 1) < 2 ^ 64) :
    geometric base steps =
      .ok ((List.range steps).map fun step => .ofNat (base.toNat * 2 ^ step)) := by
  have hmin : min steps 65 = steps := by
    have hsteps := steps_le_of_last hbase h
    omega
  unfold geometric
  rw [if_neg (UInt64.ne_of_lt hbase).symm, hmin, mapM_sizeAt_of_fits (fits_of_last h)]

lemma geometric_of_least (hbase : 0 < base)
    (hleast : IsLeast {i | 2 ^ 64 ≤ base.toNat * 2 ^ i} step) (hstep : step < steps) :
    geometric base steps = .error (.sweepOverflow base step) := by
  have hlimit : step ≤ 64 := hleast.2 (two_pow_le_mul hbase 64)
  unfold geometric
  rw [if_neg (UInt64.ne_of_lt hbase).symm, mapM_sizeAt_of_least hleast (by omega)]

/-- The sizes that a positive base generates, as long as they fit. -/
lemma map_toNat_generated (h : base.toNat * 2 ^ (steps - 1) < 2 ^ 64) :
    ((List.range steps).map fun step => UInt64.ofNat (base.toNat * 2 ^ step)).map UInt64.toNat =
      (List.range steps).map fun step => base.toNat * 2 ^ step := by
  rw [List.map_map]
  refine List.map_congr_left fun step hstep => ?_
  exact UInt64.toNat_ofNat_of_lt' (fits_of_last h step (List.mem_range.1 hstep))

end Doubling

/-! ### Checking -/

section Checking

variable {before after sizes : List UInt64} {previous next base : UInt64} {steps : ℕ}

lemma exists_cons_of_split (hsplit : next :: sizes = before ++ previous :: after) :
    ∃ more, before ++ [previous] = next :: more := by
  rcases before with _ | ⟨first, before⟩
  · exact ⟨[], by rw [(List.cons.inj hsplit).1, List.nil_append]⟩
  · exact ⟨before ++ [previous], by rw [(List.cons.inj hsplit).1, List.cons_append]⟩

/-- The descent that is found is the first one. -/
lemma descent?_eq_some_iff :
    descent? sizes = some (previous, next) ↔ ∃ before after,
      sizes = before ++ previous :: next :: after ∧ (before ++ [previous]).Pairwise (· < ·) ∧
        next ≤ previous := by
  induction sizes with
  | nil => simp [descent?]
  | cons a sizes ih =>
    rcases sizes with _ | ⟨b, sizes⟩
    · simp [descent?, List.cons_eq_append_iff]
    · rw [descent?]
      split_ifs with hle
      · -- the first two sizes do not ascend
        constructor
        · rintro ⟨⟩
          exact ⟨[], sizes, rfl, List.pairwise_singleton .., hle⟩
        · rintro ⟨_ | ⟨c, before⟩, after, hsplit, hlt, -⟩
          · cases hsplit
            rfl
          · obtain ⟨rfl, hrest⟩ := List.cons.inj hsplit
            obtain ⟨more, hmore⟩ := exists_cons_of_split hrest
            rw [List.cons_append, hmore, List.pairwise_cons_cons_iff_of_trans] at hlt
            exact absurd hle (UInt64.not_le.2 hlt.1)
      · -- they do, and the descent is one of the others
        rw [ih]
        constructor
        · rintro ⟨before, after, hsplit, hlt, hnext⟩
          refine ⟨a :: before, after, congrArg (a :: ·) hsplit, ?_, hnext⟩
          obtain ⟨more, hmore⟩ := exists_cons_of_split hsplit
          rw [List.cons_append, hmore, List.pairwise_cons_cons_iff_of_trans, ← hmore]
          exact ⟨UInt64.not_le.1 hle, hlt⟩
        · rintro ⟨_ | ⟨c, before⟩, after, hsplit, hlt, hnext⟩
          · cases hsplit
            exact absurd hnext hle
          · exact ⟨before, after, (List.cons.inj hsplit).2, (List.pairwise_cons.1 hlt).2, hnext⟩

lemma check_of_zero (hzero : 0 ∈ sizes) : check sizes = .error .zeroSize := by
  have hsome : sizes ≠ [] := List.ne_nil_of_mem hzero
  unfold check
  simp [hsome, hzero]

lemma check_of_descent (hzero : 0 ∉ before ++ previous :: next :: after)
    (hlt : (before ++ [previous]).Pairwise (· < ·)) (hle : next ≤ previous) :
    check (before ++ previous :: next :: after) = .error (.notIncreasing previous next) := by
  have hdescent := descent?_eq_some_iff.2 ⟨before, after, rfl, hlt, hle⟩
  unfold check
  simp only [List.isEmpty_iff, List.contains_iff_mem]
  rw [if_neg (by simp), if_neg hzero, hdescent]

/-- Doublings of a positive base are positive and ascend. -/
lemma check_of_generated (hbase : 0 < base) (hsteps : 0 < steps)
    (hsizes : sizes.map UInt64.toNat =
      (List.range steps).map fun step => base.toNat * 2 ^ step) : check sizes = .ok () := by
  have hpos := toNat_pos hbase
  refine check_eq_ok_iff.2 ⟨?_, ?_, ?_⟩
  · rintro rfl
    have hlength := congrArg List.length hsizes
    rw [List.length_map, List.length_map, List.length_range, List.length_nil] at hlength
    omega
  · intro hzero
    have hmem : (0 : UInt64).toNat ∈ sizes.map UInt64.toNat := List.mem_map_of_mem hzero
    rw [hsizes] at hmem
    obtain ⟨step, -, hstep⟩ := List.mem_map.1 hmem
    have hproduct : 0 < base.toNat * 2 ^ step := Nat.mul_pos hpos (Nat.two_pow_pos step)
    exact hproduct.ne' hstep
  · have hascending : (sizes.map UInt64.toNat).Pairwise (· < ·) := by
      rw [hsizes, List.pairwise_map]
      refine List.pairwise_lt_range.imp fun hlt => ?_
      exact Nat.mul_lt_mul_of_pos_left (Nat.pow_lt_pow_right Nat.one_lt_two hlt) hpos
    exact (List.pairwise_map.1 hascending).imp UInt64.lt_iff_toNat_lt.2

lemma StandsFor.check_eq_ok {sweep : Sweep} (h : StandsFor sweep sizes) : check sizes = .ok () := by
  cases h with
  | listed hsome hzero hlt => exact check_eq_ok_iff.2 ⟨hsome, hzero, hlt⟩
  | generated hbase hsteps _ hsizes =>
    exact check_of_generated hbase (UInt32.lt_iff_toNat_lt.1 hsteps) hsizes

end Checking

/-! ### Resolving -/

section Resolving

variable {sweep : Sweep} {sizes : List UInt64} {fault : PlanFault}

lemma resolve_of_expand (hexpand : sweep.expand = .ok sizes) :
    sweep.resolve = (check sizes).map fun _ => sizes := by
  unfold resolve
  rw [hexpand]
  rcases hcheck : check sizes with fault | _
  all_goals
    simp only [bind, Except.bind, hcheck]
    rfl

lemma resolve_of_expand_error (hexpand : sweep.expand = .error fault) :
    sweep.resolve = .error fault := by
  unfold resolve
  rw [hexpand]
  rfl

lemma resolve_of_check_error (hexpand : sweep.expand = .ok sizes)
    (hcheck : check sizes = .error fault) : sweep.resolve = .error fault := by
  rw [resolve_of_expand hexpand, hcheck]
  rfl

/-- Sizes that are listed without a base or steps are taken as they are. -/
lemma expand_listed (hsome : sizes ≠ []) : expand ⟨sizes, none, none⟩ = .ok sizes := by
  obtain ⟨first, rest, rfl⟩ := List.exists_cons_of_ne_nil hsome
  rfl

lemma StandsFor.resolve_eq (h : StandsFor sweep sizes) : sweep.resolve = .ok sizes := by
  have hexpand : sweep.expand = .ok sizes := by
    cases h with
    | listed hsome _ _ => exact expand_listed hsome
    | generated hbase hsteps hfits hsizes =>
      refine (geometric_of_last hbase hfits).trans (congrArg Except.ok ?_)
      exact List.map_injective_iff.2 (fun _ _ => UInt64.toNat_inj.1)
        ((map_toNat_generated hfits).trans hsizes.symm)
  rw [resolve_of_expand hexpand, h.check_eq_ok]
  rfl

lemma Refused.resolve_eq (h : Refused sweep fault) : sweep.resolve = .error fault := by
  cases h with
  | ambiguous hsome hgenerated =>
    apply resolve_of_expand_error
    obtain ⟨sizes, base, steps⟩ := sweep
    obtain ⟨first, rest, rfl⟩ := List.exists_cons_of_ne_nil hsome
    rcases base with _ | base
    · rcases steps with _ | steps
      · simp at hgenerated
      · rfl
    · rfl
  | missing hnone hgenerated =>
    apply resolve_of_expand_error
    obtain ⟨sizes, base, steps⟩ := sweep
    obtain rfl : sizes = [] := hnone
    rcases base with _ | base
    · rfl
    · rcases steps with _ | steps
      · rfl
      · simp at hgenerated
  | zeroBase => exact resolve_of_expand_error rfl
  | noSteps hbase =>
    refine resolve_of_check_error (geometric_of_last hbase ?_) rfl
    simpa using UInt64.toNat_lt _
  | overflow hbase hstep hleast =>
    exact resolve_of_expand_error (geometric_of_least hbase hleast hstep)
  | zeroSize hzero =>
    exact resolve_of_check_error (expand_listed (List.ne_nil_of_mem hzero)) (check_of_zero hzero)
  | descent hzero hlt hle =>
    exact resolve_of_check_error (expand_listed (by simp)) (check_of_descent hzero hlt hle)

lemma listed_or_refused (hsome : sizes ≠ []) :
    StandsFor ⟨sizes, none, none⟩ sizes ∨ ∃ fault, Refused ⟨sizes, none, none⟩ fault := by
  by_cases hzero : 0 ∈ sizes
  · exact Or.inr ⟨_, .zeroSize hzero⟩
  · rcases hdescent : descent? sizes with _ | ⟨previous, next⟩
    · exact Or.inl (.listed hsome hzero (descent?_eq_none_iff.1 hdescent))
    · obtain ⟨before, after, rfl, hlt, hle⟩ := descent?_eq_some_iff.1 hdescent
      exact Or.inr ⟨_, .descent hzero hlt hle⟩

lemma generated_or_refused (base : UInt64) (steps : UInt32) :
    (∃ sizes, StandsFor ⟨[], some base, some steps⟩ sizes) ∨
      ∃ fault, Refused ⟨[], some base, some steps⟩ fault := by
  by_cases hbase : 0 < base
  · by_cases hsteps : 0 < steps
    · obtain ⟨step, -, hleast⟩ := exists_least_overflow hbase
      by_cases hstep : step < steps.toNat
      · exact Or.inr ⟨_, .overflow hbase hstep hleast⟩
      · -- the last step stands before the first one that overflows
        have hpos : 0 < steps.toNat := UInt32.lt_iff_toNat_lt.1 hsteps
        have hfits : base.toNat * 2 ^ (steps.toNat - 1) < 2 ^ 64 := by
          refine Nat.lt_of_not_le fun hle => ?_
          have hfirst : step ≤ steps.toNat - 1 := hleast.2 hle
          omega
        exact Or.inl ⟨_, .generated hbase hsteps hfits (map_toNat_generated hfits)⟩
    · obtain rfl : steps = 0 := UInt32.le_zero_iff.1 (UInt32.not_lt.1 hsteps)
      exact Or.inr ⟨_, .noSteps hbase⟩
  · obtain rfl : base = 0 := UInt64.le_zero_iff.1 (UInt64.not_lt.1 hbase)
    exact Or.inr ⟨_, .zeroBase⟩

/-- A sweep stands for sizes or is refused. -/
lemma standsFor_or_refused (sweep : Sweep) :
    (∃ sizes, StandsFor sweep sizes) ∨ ∃ fault, Refused sweep fault := by
  obtain ⟨sizes, base, steps⟩ := sweep
  by_cases hsome : sizes = []
  · subst hsome
    rcases base with _ | base
    · exact Or.inr ⟨_, .missing rfl (Or.inl rfl)⟩
    · rcases steps with _ | steps
      · exact Or.inr ⟨_, .missing rfl (Or.inr rfl)⟩
      · exact generated_or_refused base steps
  · by_cases hgenerated : base ≠ none ∨ steps ≠ none
    · exact Or.inr ⟨_, .ambiguous hsome hgenerated⟩
    · obtain ⟨rfl, rfl⟩ : base = none ∧ steps = none := by simpa using hgenerated
      exact (listed_or_refused hsome).imp_left fun h => ⟨_, h⟩

lemma resolve_eq_ok_iff : sweep.resolve = .ok sizes ↔ StandsFor sweep sizes := by
  refine ⟨fun hresolve => ?_, StandsFor.resolve_eq⟩
  rcases standsFor_or_refused sweep with ⟨others, h⟩ | ⟨fault, h⟩
  · obtain rfl := Except.ok.inj (hresolve.symm.trans h.resolve_eq)
    exact h
  · cases hresolve.symm.trans h.resolve_eq

lemma resolve_eq_error_iff : sweep.resolve = .error fault ↔ Refused sweep fault := by
  refine ⟨fun hresolve => ?_, Refused.resolve_eq⟩
  rcases standsFor_or_refused sweep with ⟨sizes, h⟩ | ⟨other, h⟩
  · cases hresolve.symm.trans h.resolve_eq
  · obtain rfl := Except.error.inj (hresolve.symm.trans h.resolve_eq)
    exact h

/-- Sizes that pass the check are never the reason to refuse a plan. -/
lemma plan_eq_error_iff {repetitions : ℕ} {mode : SweepMode} {metrics : List Metric}
    {results : String} (hcheck : check sizes = .ok ()) :
    Experiment.plan sizes repetitions mode metrics results = .error fault ↔
      Metric.check metrics = .error fault ∨
        Metric.check metrics = .ok () ∧ repetitions = 0 ∧ fault = .zeroRepetitions := by
  unfold Experiment.plan
  split
  next hfault =>
    rw [hcheck] at hfault
    cases hfault
  next =>
    split
    next hmetrics => simp [hmetrics]
    next hmetrics =>
      split_ifs with hrepetitions
      · simp [hmetrics, hrepetitions, eq_comm]
      · simp [hmetrics, hrepetitions]

lemma StandsFor.length_le (h : StandsFor sweep sizes) (hnone : sweep.sizes = []) :
    sizes.length ≤ 64 := by
  cases h with
  | listed hsome _ _ => exact absurd hnone hsome
  | generated hbase _ hfits hsizes =>
    have hlength := congrArg List.length hsizes
    rw [List.length_map, List.length_map, List.length_range] at hlength
    exact hlength.trans_le (steps_le_of_last hbase hfits)

/-- **What a sweep resolves to.**  A sweep resolves to sizes exactly if it stands for them, and is
refused for a reason exactly if it has this one.  Not more than 64 sizes are generated, and
whatever a sweep resolves to passes the check again, so that a plan with it is refused only if its
metrics are or if nothing is to be repeated. -/
theorem resolve_iff (sweep : Sweep) :
    (∀ sizes, sweep.resolve = .ok sizes ↔ StandsFor sweep sizes) ∧
    (∀ fault, sweep.resolve = .error fault ↔ Refused sweep fault) ∧
    ∀ sizes, sweep.resolve = .ok sizes →
      (sweep.sizes = [] → sizes.length ≤ 64) ∧ check sizes = .ok () ∧
      ∀ repetitions mode metrics results fault,
        Experiment.plan sizes repetitions mode metrics results = .error fault ↔
          Metric.check metrics = .error fault ∨
            Metric.check metrics = .ok () ∧ repetitions = 0 ∧ fault = .zeroRepetitions := by
  refine ⟨fun _ => resolve_eq_ok_iff, fun _ => resolve_eq_error_iff, fun sizes hresolve => ?_⟩
  have hstands := resolve_eq_ok_iff.1 hresolve
  exact ⟨hstands.length_le, hstands.check_eq_ok,
    fun _ _ _ _ _ => plan_eq_error_iff hstands.check_eq_ok⟩

example : resolve ⟨[], some 3, some 64⟩ = .error (.sweepOverflow 3 63) := by decide

end Resolving

end SizeSweep.Sweep
