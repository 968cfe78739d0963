import SizeSweep.Proofs.Experiment.Course
import SizeSweep.Runner

/-!
Runs that cannot start.  The runner checks its configuration, the sweep, the metrics and the
repetitions, then builds the program, and only then opens the results file.  Where one of these fails,
whichever the mode and the command line, nothing is measured and every file that the build leaves alone
holds what it held.
-/

namespace SizeSweep

lemma Sweep.check_of_resolve {sweep : Sweep} {sizes : List UInt64}
    (h : sweep.resolve = .ok sizes) : Sweep.check sizes = .ok () := by
  unfold Sweep.resolve at h
  rcases hexpand : sweep.expand with fault | expanded
  · rw [hexpand] at h
    cases h
  · rw [hexpand] at h
    rcases hcheck : Sweep.check expanded with fault | _
    · simp [hcheck, bind, Except.bind] at h
    · simp only [hcheck, bind, Except.bind, pure, Except.pure, Except.ok.injEq] at h
      exact h ▸ hcheck

namespace Experiment

section Plan

variable {sizes : List UInt64} {metrics : List Metric}

lemma plan_of_metrics {fault : PlanFault} (hsizes : Sweep.check sizes = .ok ())
    (h : Metric.check metrics = .error fault) (repetitions : ℕ) (mode : SweepMode)
    (results : String) : plan sizes repetitions mode metrics results = .error fault := by
  unfold plan
  split
  · rename_i hfault
    rw [hsizes] at hfault
    cases hfault
  · split
    · rename_i hfault
      rw [h] at hfault
      rw [Except.error.inj hfault]
    · rename_i hok
      rw [h] at hok
      cases hok

lemma plan_of_repetitions (hsizes : Sweep.check sizes = .ok ())
    (hmetrics : Metric.check metrics = .ok ()) (mode : SweepMode) (results : String) :
    plan sizes 0 mode metrics results = .error .zeroRepetitions := by
  unfold plan
  split
  · rename_i hfault
    rw [hsizes] at hfault
    cases hfault
  · split
    · rename_i hfault
      rw [hmetrics] at hfault
      cases hfault
    · rw [dif_pos rfl]

end Plan

section Halts

variable {W : Type} {bench : Bench W} {e : Experiment} {w : W}

lemma run_of_prepare {fault : Build.Fault} (h : (prepare bench w).1 = .error fault) :
    run bench e w = ⟨.error ⟨none, .build fault⟩, {}, (prepare bench w).2⟩ := by
  unfold run
  generalize prepare bench w = prepared at h
  obtain ⟨result, w'⟩ := prepared
  obtain rfl : result = .error fault := h
  rfl

lemma run_of_openStore {fault : Store.Fault} (hbuild : (prepare bench w).1 = .ok ())
    (h : e.openStore e.store (bench.results (prepare bench w).2) = .error fault) :
    run bench e w = ⟨.error ⟨none, .store fault⟩, {}, (prepare bench w).2⟩ := by
  unfold run
  generalize prepare bench w = prepared at hbuild h
  obtain ⟨result, w'⟩ := prepared
  obtain rfl : result = .ok () := hbuild
  rw [store] at h
  simp only [sweep, h]

end Halts

end Experiment

namespace Runner

open Experiment (prepare)

variable {W : Type}

def Plan.bench (plan : Plan) (surroundings : Surroundings W) : Bench W :=
  surroundings.bench plan.experiment.results plan.invocation plan.limit plan.build

/-- Building the program does not touch what a path holds. -/
def Surroundings.BuildKeeps (surroundings : Surroundings W) (path : String) : Prop :=
  ∀ spec w, surroundings.spot (surroundings.build spec w).2 path = surroundings.spot w path

/-- Why a run with some arguments cannot start, with what is reported of it. -/
inductive CannotStart (surroundings : Surroundings W) (arguments : Arguments) (w : W) : Event → Prop
  /-- The configuration cannot be read, or what is read is none. -/
  | config {fault : Config.Fault}
      (h : Config.ofFile (surroundings.readText w arguments.configPath) = .error fault) :
      CannotStart surroundings arguments w (.unusableConfig arguments.configPath fault)
  /-- The sweep has no sizes to measure. -/
  | sweep {config : Config} {fault : PlanFault}
      (hconfig : Config.ofFile (surroundings.readText w arguments.configPath) = .ok config)
      (h : config.sweep.resolve = .error fault) :
      CannotStart surroundings arguments w (.invalidSweep fault)
  /-- The metrics cannot be tracked. -/
  | metrics {config : Config} {sizes : List UInt64} {fault : PlanFault}
      (hconfig : Config.ofFile (surroundings.readText w arguments.configPath) = .ok config)
      (hsizes : config.sweep.resolve = .ok sizes) (h : Metric.check config.metrics = .error fault) :
      CannotStart surroundings arguments w (.rejected fault)
  /-- No trial is asked for, by the command line or else by the configuration. -/
  | repetitions {config : Config} {sizes : List UInt64}
      (hconfig : Config.ofFile (surroundings.readText w arguments.configPath) = .ok config)
      (hsizes : config.sweep.resolve = .ok sizes) (hmetrics : Metric.check config.metrics = .ok ())
      (h : (arguments.reps <|> config.repetitions) = some 0) :
      CannotStart surroundings arguments w (.rejected .zeroRepetitions)
  /-- The build fails, at whichever of its steps. -/
  | build {config : Config} {planned : Plan} {fault : Build.Fault}
      (hconfig : Config.ofFile (surroundings.readText w arguments.configPath) = .ok config)
      (hplan : plan arguments config = .ok planned)
      (h : (prepare (planned.bench surroundings) w).1 = .error fault) :
      CannotStart surroundings arguments w (.halted ⟨none, .build fault⟩)
  /-- The results file is to be resumed and cannot be. -/
  | results {config : Config} {planned : Plan} {fault : Store.Fault}
      (hconfig : Config.ofFile (surroundings.readText w arguments.configPath) = .ok config)
      (hplan : plan arguments config = .ok planned) (hmode : planned.experiment.mode = .resume)
      (hbuild : (prepare (planned.bench surroundings) w).1 = .ok ())
      (h : planned.experiment.store.resume (surroundings.spot
        (prepare (planned.bench surroundings) w).2 planned.experiment.results) = .error fault) :
      CannotStart surroundings arguments w (.halted ⟨none, .store fault⟩)

section Program

variable {surroundings : Surroundings W} {words : List String} {arguments : Arguments}
  {config : Config} {planned : Plan} {w : W}

/-! ### Outcomes -/

lemma program_of_config {fault : Config.Fault} (hwords : Arguments.ofWords words = .ok arguments)
    (h : Config.ofFile (surroundings.readText w arguments.configPath) = .error fault) :
    program surroundings words w =
      { exitCode := 1, errors := [.unusableConfig arguments.configPath fault], world := w } := by
  unfold program
  simp only [hwords, h]

lemma program_of_plan {event : Event} (hwords : Arguments.ofWords words = .ok arguments)
    (hconfig : Config.ofFile (surroundings.readText w arguments.configPath) = .ok config)
    (h : plan arguments config = .error event) :
    program surroundings words w = { exitCode := 1, errors := [event], world := w } := by
  unfold program
  simp only [hwords, hconfig, h]

lemma program_of_halt {halt : Experiment.Halt} {w' : W}
    (hwords : Arguments.ofWords words = .ok arguments)
    (hconfig : Config.ofFile (surroundings.readText w arguments.configPath) = .ok config)
    (hplan : plan arguments config = .ok planned)
    (h : planned.experiment.run (planned.bench surroundings) w = ⟨.error halt, {}, w'⟩) :
    program surroundings words w = { exitCode := 1, errors := eventsOf halt, world := w' } := by
  rw [Plan.bench] at h
  unfold program
  simp only [hwords, hconfig, hplan, execute, h]

/-! ### Plans -/

lemma plan_of_sweep {fault : PlanFault} (h : config.sweep.resolve = .error fault) :
    plan arguments config = .error (.invalidSweep fault) := by
  unfold plan
  simp only [h]

lemma plan_of_rejected {sizes : List UInt64} {fault : PlanFault}
    (hsizes : config.sweep.resolve = .ok sizes)
    (h : Experiment.plan sizes ((arguments.reps <|> config.repetitions).getD 1).toNat
      ((arguments.mode <|> config.mode).getD .fresh) config.metrics
      (arguments.results.getD config.results) = .error fault) :
    plan arguments config = .error (.rejected fault) := by
  unfold plan
  simp only [hsizes, h]

/-! ### Runs that cannot start -/

/-- The build is all that a run that cannot start may have done. -/
lemma CannotStart.program {event : Event} (h : CannotStart surroundings arguments w event)
    (hwords : Arguments.ofWords words = .ok arguments) :
    ∃ w', (w' = w ∨ ∃ spec, w' = (surroundings.build spec w).2) ∧
      ∃ errors, errors.getLast? = some event ∧ ∀ trial,
        Runner.program { surroundings with trial } words w =
          { exitCode := 1, errors, world := w' } := by
  have hprepared : ∀ planned : Plan,
      (prepare (planned.bench surroundings) w).2 = w ∨
        ∃ spec, (prepare (planned.bench surroundings) w).2 = (surroundings.build spec w).2 := by
    intro planned
    unfold prepare Plan.bench Surroundings.bench
    rcases planned.build with _ | spec
    · exact Or.inl rfl
    · exact Or.inr ⟨spec, rfl⟩
  cases h with
  | config h => exact ⟨w, Or.inl rfl, _, rfl, fun trial => program_of_config hwords h⟩
  | sweep hconfig h =>
    exact ⟨w, Or.inl rfl, _, rfl, fun trial => program_of_plan hwords hconfig (plan_of_sweep h)⟩
  | metrics hconfig hsizes h =>
    have hplan : plan arguments _ = .error (.rejected _) := plan_of_rejected hsizes
      (Experiment.plan_of_metrics (Sweep.check_of_resolve hsizes) h _ _ _)
    exact ⟨w, Or.inl rfl, _, rfl, fun trial => program_of_plan hwords hconfig hplan⟩
  | @repetitions config sizes hconfig hsizes hmetrics h =>
    have hplan : plan arguments config = .error (.rejected .zeroRepetitions) := by
      refine plan_of_rejected hsizes ?_
      rw [h]
      exact Experiment.plan_of_repetitions (Sweep.check_of_resolve hsizes) hmetrics _ _
    exact ⟨w, Or.inl rfl, _, rfl, fun trial => program_of_plan hwords hconfig hplan⟩
  | @build config planned fault hconfig hplan h =>
    refine ⟨_, hprepared planned, eventsOf ⟨none, .build fault⟩, ?_, fun trial =>
      program_of_halt hwords hconfig hplan (Experiment.run_of_prepare h)⟩
    cases fault <;> rfl
  | @results config planned fault hconfig hplan hmode hbuild h =>
    refine ⟨_, hprepared planned, eventsOf ⟨none, .store fault⟩, rfl, fun trial =>
      program_of_halt hwords hconfig hplan (Experiment.run_of_openStore hbuild ?_)⟩
    unfold Experiment.openStore
    rw [hmode]
    exact h

/-- **A run that cannot start destroys nothing.**  It fails, it reports why, and it measures nothing:
its outcome is the same whatever the measured program would do.  What a path holds, that of the results
file among them, stays as it was if the build does not touch it. -/
theorem cannotStart_keeps (surroundings : Surroundings W) (words : List String)
    (arguments : Arguments) (w : W) (event : Event)
    (hwords : Arguments.ofWords words = .ok arguments)
    (h : CannotStart surroundings arguments w event) :
    let outcome := program surroundings words w
    outcome.exitCode = 1 ∧ outcome.errors.getLast? = some event ∧ outcome.journal.calls = [] ∧
    (∀ trial, program { surroundings with trial } words w = outcome) ∧
    ∀ path, surroundings.BuildKeeps path →
      surroundings.spot outcome.world path = surroundings.spot w path := by
  intro outcome
  obtain ⟨w', hw', errors, hlast, hprogram⟩ := h.program hwords
  have houtcome : outcome = { exitCode := 1, errors, world := w' } := hprogram surroundings.trial
  rw [houtcome]
  refine ⟨rfl, hlast, rfl, hprogram, fun path hkeeps => ?_⟩
  rcases hw' with rfl | ⟨spec, rfl⟩
  · rfl
  · exact hkeeps spec w

/-- Surroundings of one results file, in which no build succeeds. -/
def unbuildable : Surroundings Spot where
  readText _ _ := .ok "program: app\nsweep: {sizes: [8]}\nbuild: {}\n"
  spot w _ := w
  setContent _ _ bytes := .content bytes
  trial _ _ w _ := (.ok "Average OMAP Read Time: 1", w)
  build _ w := (.error (.failed "make" (.code 2) "no rule"), w)

/-- A fresh run keeps the file that it was to discard. -/
theorem cannotStart_keeps_unbuildable :
    let before := Spot.content (Text.encode "size,ns\n8,1.0\n")
    ∃ outcome, program unbuildable ["--mode", "fresh"] before = outcome ∧
      outcome.exitCode = 1 ∧ outcome.journal.calls = [] ∧
      unbuildable.spot outcome.world "experiment.csv" = before := by
  intro before
  let arguments : Arguments := { mode := some .fresh }
  have hplanned : ((Config.ofFile (unbuildable.readText before arguments.configPath)).toOption.bind
      fun config => (plan arguments config).toOption).any (fun p => p.build = some {}) = true := by
    decide +kernel
  rcases hconfig : Config.ofFile (unbuildable.readText before arguments.configPath) with
    fault | config
  · rw [hconfig] at hplanned
    cases hplanned
  · rcases hplan : plan arguments config with event | planned
    · rw [hconfig] at hplanned
      simp [Except.toOption, hplan] at hplanned
    · have hbuild : planned.build = some {} := by
        rw [hconfig] at hplanned
        simpa [Except.toOption, hplan] using hplanned
      have hprepare : (prepare (planned.bench unbuildable) before).1 =
          .error (.failed "make" (.code 2) "no rule") := by
        unfold prepare Plan.bench Surroundings.bench
        rw [hbuild]
        rfl
      obtain ⟨hexit, -, hcalls, -, hkept⟩ := cannotStart_keeps unbuildable ["--mode", "fresh"]
        arguments before _ rfl (.build hconfig hplan hprepare)
      exact ⟨_, rfl, hexit, hcalls, hkept "experiment.csv" fun _ _ => rfl⟩

end Program

end Runner

end SizeSweep
