import SizeSweep.Config
import SizeSweep.Proofs.Yaml.Records

/-!
What a configuration says.  The records of a configuration are laid out in slots; each field has the
value that stands under its name, whatever the others are, or else its default.  So a text means the
same configuration in any order of its keys.
-/

namespace SizeSweep.Config

open Yaml

/-! ### Metrics -/

def metricShapes : List FieldShape :=
  [⟨"column", true, Form.Text.Has⟩, ⟨"label", true, Form.Text.Has⟩]

/-- What entries say of a metric. -/
@[mk_iff]
structure MetricWritten (entries : List (Node × Node)) (metric : Metric) : Prop where
  column : Requires entries "column" .Text metric.column
  label : Requires entries "label" .Text metric.label

def metricSlots : List (Slot MetricDraft) :=
  [.ofForm "column" true MetricDraft.column (fun d x => { d with column := some x })
    (reads_text "a string") fun _ _ => rfl,
   .ofForm "label" true MetricDraft.label (fun d x => { d with label := some x })
    (reads_text "a string") fun _ _ => rfl]

def metricLayout : Layout MetricDraft Metric where
  slots := metricSlots
  blank := {}
  complete := MetricDraft.complete
  Written := MetricWritten
  names_nodup := by decide
  get_blank := by
    simp only [metricSlots, List.forall_mem_cons]
    exact ⟨rfl, rfl, by simp⟩
  apart := by
    simp only [metricSlots, List.pairwise_cons, List.forall_mem_cons]
    exact ⟨⟨⟨fun _ _ => rfl, fun _ _ => rfl⟩, by simp⟩, by simp⟩
  complete_iff draft := by
    simp only [metricSlots, List.forall_mem_cons]
    rcases draft with ⟨_ | column, _ | label⟩ <;> simp [MetricDraft.complete, Slot.ofForm]
  written_iff entries draft h metric := by
    simp only [metricSlots, List.forall_mem_cons] at h
    obtain ⟨hcolumn, hlabel, -⟩ := h
    rw [metricWritten_iff]
    refine (and_congr (hcolumn.given _) (hlabel.given _)).trans ?_
    rcases draft with ⟨_ | column, _ | label⟩ <;> cases metric <;>
      simp [MetricDraft.complete, Slot.ofForm]

lemma reads_metric : metric.Reads (.Record metricShapes MetricWritten) :=
  metricLayout.reads_record "struct MetricSpec"

/-! ### Sweeps -/

lemma join_eq_getD {α : Type} (x : Option (Option α)) : x.join = x.getD none := by
  cases x <;> rfl

def sweepShapes : List FieldShape :=
  [⟨"sizes", false, (Form.Items .Size).Has⟩, ⟨"base", false, (Form.Optional .Size).Has⟩,
   ⟨"steps", false, (Form.Optional .Count).Has⟩]

/-- What entries say of a sweep. -/
@[mk_iff]
structure SweepWritten (entries : List (Node × Node)) (sweep : Sweep) : Prop where
  sizes : Defaults entries "sizes" (.Items .Size) [] sweep.sizes
  base : Defaults entries "base" (.Optional .Size) none sweep.base
  steps : Defaults entries "steps" (.Optional .Count) none sweep.steps

def sweepSlots : List (Slot SweepDraft) :=
  [.ofForm "sizes" false SweepDraft.sizes (fun d x => { d with sizes := some x })
    (reads_list (reads_size "u64")) fun _ _ => rfl,
   .ofForm "base" false SweepDraft.base (fun d x => { d with base := some x })
    (reads_optional (reads_size "u64")) fun _ _ => rfl,
   .ofForm "steps" false SweepDraft.steps (fun d x => { d with steps := some x })
    (reads_optional (reads_count "u32")) fun _ _ => rfl]

def sweepLayout : Layout SweepDraft Sweep where
  slots := sweepSlots
  blank := {}
  complete draft := .ok draft.complete
  Written := SweepWritten
  names_nodup := by decide
  get_blank := by
    simp only [sweepSlots, List.forall_mem_cons]
    exact ⟨rfl, rfl, rfl, by simp⟩
  apart := by
    simp only [sweepSlots, List.pairwise_cons, List.forall_mem_cons, Slot.Apart]
    simp [Slot.ofForm]
  complete_iff draft := by simp [sweepSlots, Slot.ofForm]
  written_iff entries draft h sweep := by
    simp only [sweepSlots, List.forall_mem_cons] at h
    obtain ⟨hsizes, hbase, hsteps, -⟩ := h
    rw [sweepWritten_iff]
    refine (and_congr (hsizes.defaults_iff _ _) (and_congr (hbase.defaults_iff _ _)
      (hsteps.defaults_iff _ _))).trans ?_
    cases sweep
    simp [SweepDraft.complete, Slot.ofForm, join_eq_getD]

lemma reads_sweep : sweepSpec.Reads (.Record sweepShapes SweepWritten) :=
  sweepLayout.reads_record "struct SweepCfg"

/-! ### Builds -/

def buildShapes : List FieldShape :=
  [⟨"config", false, Form.Text.Has⟩, ⟨"flags", false, (Form.Items .Text).Has⟩,
   ⟨"debug", false, Form.Boolean.Has⟩, ⟨"additional_vars", false, (Form.Items .Text).Has⟩,
   ⟨"dir", false, (Form.Optional .Text).Has⟩]

/-- What entries say of a build. -/
@[mk_iff]
structure BuildWritten (entries : List (Node × Node)) (build : BuildSpec) : Prop where
  config : Defaults entries "config" .Text "Enclave/Enclave.config.xml" build.config
  flags : Defaults entries "flags" (.Items .Text) [] build.flags
  debug : Defaults entries "debug" .Boolean false build.debug
  additionalVars : Defaults entries "additional_vars" (.Items .Text) [] build.additionalVars
  dir : Defaults entries "dir" (.Optional .Text) none build.dir

def buildSlots : List (Slot BuildDraft) :=
  [.ofForm "config" false BuildDraft.config (fun d x => { d with config := some x })
    (reads_text "a string") fun _ _ => rfl,
   .ofForm "flags" false BuildDraft.flags (fun d x => { d with flags := some x })
    (reads_list (reads_text "a string")) fun _ _ => rfl,
   .ofForm "debug" false BuildDraft.debug (fun d x => { d with debug := some x })
    reads_boolean fun _ _ => rfl,
   .ofForm "additional_vars" false BuildDraft.additionalVars
    (fun d x => { d with additionalVars := some x }) (reads_list (reads_text "a string"))
    fun _ _ => rfl,
   .ofForm "dir" false BuildDraft.dir (fun d x => { d with dir := some x })
    (reads_optional (reads_text "path string")) fun _ _ => rfl]

def buildLayout : Layout BuildDraft BuildSpec where
  slots := buildSlots
  blank := {}
  complete draft := .ok draft.complete
  Written := BuildWritten
  names_nodup := by decide
  get_blank := by
    simp only [buildSlots, List.forall_mem_cons]
    exact ⟨rfl, rfl, rfl, rfl, rfl, by simp⟩
  apart := by
    simp only [buildSlots, List.pairwise_cons, List.forall_mem_cons, Slot.Apart]
    simp [Slot.ofForm]
  complete_iff draft := by simp [buildSlots, Slot.ofForm]
  written_iff entries draft h build := by
    simp only [buildSlots, List.forall_mem_cons] at h
    obtain ⟨hconfig, hflags, hdebug, hadditionalVars, hdir, -⟩ := h
    rw [buildWritten_iff]
    refine (and_congr (hconfig.defaults_iff _ _) (and_congr (hflags.defaults_iff _ _)
      (and_congr (hdebug.defaults_iff _ _) (and_congr (hadditionalVars.defaults_iff _ _)
        (hdir.defaults_iff _ _))))).trans ?_
    cases build
    simp [BuildDraft.complete, Slot.ofForm]

lemma reads_build : buildSpec.Reads (.Record buildShapes BuildWritten) :=
  buildLayout.reads_record "struct BuildSpec"

/-! ### Configurations -/

/-- What is asked of the fields of a configuration. -/
def shapes : List FieldShape :=
  [⟨"program", true, Form.Text.Has⟩, ⟨"args", false, (Form.Items .Text).Has⟩,
   ⟨"cwd", false, (Form.Optional .Text).Has⟩, ⟨"env", false, Form.Dictionary.Has⟩,
   ⟨"results", false, Form.Text.Has⟩, ⟨"repetitions", false, (Form.Optional .Size).Has⟩,
   ⟨"mode", false,
    (Form.Optional (.Variant [("fresh", SweepMode.fresh), ("resume", .resume)])).Has⟩,
   ⟨"sweep", true, Node.IsRecord sweepShapes⟩,
   ⟨"trial_timeout_secs", false, (Form.Optional .Size).Has⟩,
   ⟨"metrics", false, Node.IsList (Node.IsRecord metricShapes)⟩,
   ⟨"build", false, Node.IsOptional (Node.IsRecord buildShapes)⟩]

/-- What entries say of a configuration. -/
@[mk_iff]
structure Written (entries : List (Node × Node)) (config : Config) : Prop where
  program : Requires entries "program" .Text config.program
  args : Defaults entries "args" (.Items .Text) [] config.args
  cwd : Defaults entries "cwd" (.Optional .Text) none config.cwd
  env : Defaults entries "env" .Dictionary [] config.env
  results : Defaults entries "results" .Text "experiment.csv" config.results
  repetitions : Defaults entries "repetitions" (.Optional .Size) none config.repetitions
  mode : Defaults entries "mode"
    (.Optional (.Variant [("fresh", .fresh), ("resume", .resume)])) none config.mode
  sweep : Requires entries "sweep" (.Record sweepShapes SweepWritten) config.sweep
  trialTimeoutSecs :
    Defaults entries "trial_timeout_secs" (.Optional .Size) none config.trialTimeoutSecs
  metrics : Defaults entries "metrics" (.Items (.Record metricShapes MetricWritten))
    Metric.defaults config.metrics
  build : Defaults entries "build" (.Optional (.Record buildShapes BuildWritten)) none config.build

def slots : List (Slot Draft) :=
  [.ofForm "program" true Draft.program (fun d x => { d with program := some x })
    (reads_text "path string") fun _ _ => rfl,
   .ofForm "args" false Draft.args (fun d x => { d with args := some x })
    (reads_list (reads_text "a string")) fun _ _ => rfl,
   .ofForm "cwd" false Draft.cwd (fun d x => { d with cwd := some x })
    (reads_optional (reads_text "path string")) fun _ _ => rfl,
   .ofForm "env" false Draft.env (fun d x => { d with env := some x }) reads_dictionary
    fun _ _ => rfl,
   .ofForm "results" false Draft.results (fun d x => { d with results := some x })
    (reads_text "path string") fun _ _ => rfl,
   .ofForm "repetitions" false Draft.repetitions (fun d x => { d with repetitions := some x })
    (reads_optional (reads_size "usize")) fun _ _ => rfl,
   .ofForm "mode" false Draft.mode (fun d x => { d with mode := some x })
    (reads_optional (reads_variant [("fresh", .fresh), ("resume", .resume)])) fun _ _ => rfl,
   { Slot.ofForm "sweep" true Draft.sweep (fun d x => { d with sweep := some x }) reads_sweep
      fun _ _ => rfl with
     HasType := Node.IsRecord sweepShapes
     hasType_iff := fun _ => sweepLayout.isRecord_iff },
   .ofForm "trial_timeout_secs" false Draft.trialTimeoutSecs
    (fun d x => { d with trialTimeoutSecs := some x }) (reads_optional (reads_size "u64"))
    fun _ _ => rfl,
   { Slot.ofForm "metrics" false Draft.metrics (fun d x => { d with metrics := some x })
      (reads_list reads_metric) fun _ _ => rfl with
     HasType := Node.IsList (Node.IsRecord metricShapes)
     hasType_iff := fun _ hfree => isList_iff hfree fun _ => metricLayout.isRecord_iff },
   { Slot.ofForm "build" false Draft.build (fun d x => { d with build := some x })
      (reads_optional reads_build) fun _ _ => rfl with
     HasType := Node.IsOptional (Node.IsRecord buildShapes)
     hasType_iff := fun _ hfree => isOptional_iff (buildLayout.isRecord_iff hfree) }]

def layout : Layout Draft Config where
  slots := slots
  blank := {}
  complete := Draft.complete
  Written := Written
  names_nodup := by decide
  get_blank := by
    simp only [slots, List.forall_mem_cons]
    exact ⟨rfl, rfl, rfl, rfl, rfl, rfl, rfl, rfl, rfl, rfl, rfl, by simp⟩
  apart := by
    simp only [slots, List.pairwise_cons, List.forall_mem_cons, Slot.Apart]
    simp [Slot.ofForm]
  complete_iff draft := by
    rcases draft with ⟨_ | program, _, _, _, _, _, _, _ | sweep, _⟩ <;>
      simp [slots, Slot.ofForm, Draft.complete]
  written_iff entries draft h config := by
    simp only [slots, List.forall_mem_cons] at h
    obtain ⟨hprogram, hargs, hcwd, henv, hresults, hrepetitions, hmode, hsweep, htimeout, hmetrics,
      hbuild, -⟩ := h
    rw [written_iff]
    refine (and_congr (hprogram.given _) (and_congr (hargs.defaults_iff _ _)
      (and_congr (hcwd.defaults_iff _ _) (and_congr (henv.defaults_iff _ _)
      (and_congr (hresults.defaults_iff _ _) (and_congr (hrepetitions.defaults_iff _ _)
      (and_congr (hmode.defaults_iff _ _) (and_congr (hsweep.given _)
      (and_congr (htimeout.defaults_iff _ _) (and_congr (hmetrics.defaults_iff _ _)
      (hbuild.defaults_iff _ _))))))))))).trans ?_
    cases config
    rcases draft with ⟨_ | program, _, _, _, _, _, _, _ | sweep, _⟩ <;>
      simp [Slot.ofForm, Draft.complete]

lemma reads_config : decoder.Reads (.Record shapes Written) :=
  layout.reads_record "struct Config"

/-! ### Other orders -/

section Orders

variable {node : Node}

lemma unorderedAt_metric (hfree : node.AliasFree) :
    (Form.Record metricShapes MetricWritten).UnorderedAt node := by
  refine metricLayout.unorderedAt_record hfree fun entries _ => ?_
  simp only [metricLayout, metricSlots, List.forall_mem_cons]
  exact ⟨fun value _ _ => unorderedAt_text value, fun value _ _ => unorderedAt_text value, by simp⟩

lemma unorderedAt_sweep (hfree : node.AliasFree) :
    (Form.Record sweepShapes SweepWritten).UnorderedAt node := by
  refine sweepLayout.unorderedAt_record hfree fun entries _ => ?_
  simp only [sweepLayout, sweepSlots, List.forall_mem_cons]
  exact ⟨fun value hvalue _ => unorderedAt_items hvalue fun item _ => unorderedAt_size item,
    fun value _ _ => unorderedAt_optional (unorderedAt_size value),
    fun value _ _ => unorderedAt_optional (unorderedAt_count value), by simp⟩

lemma unorderedAt_texts (hfree : node.AliasFree) : (Form.Items .Text).UnorderedAt node :=
  unorderedAt_items hfree fun item _ => unorderedAt_text item

lemma unorderedAt_build (hfree : node.AliasFree) :
    (Form.Record buildShapes BuildWritten).UnorderedAt node := by
  refine buildLayout.unorderedAt_record hfree fun entries _ => ?_
  simp only [buildLayout, buildSlots, List.forall_mem_cons]
  exact ⟨fun value _ _ => unorderedAt_text value, fun value hvalue _ => unorderedAt_texts hvalue,
    fun value _ _ => unorderedAt_boolean value, fun value hvalue _ => unorderedAt_texts hvalue,
    fun value _ _ => unorderedAt_optional (unorderedAt_text value), by simp⟩

/-- A configuration is the same in any order of keys if no name is repeated in its environment. -/
lemma unorderedAt_config (hfree : node.AliasFree)
    (henv : ∀ entries, node.HasEntries entries → ∀ words, Under entries "env" words →
      ∀ listed, words.HasEntries listed → (names listed).Nodup) :
    (Form.Record shapes Written).UnorderedAt node := by
  refine layout.unorderedAt_record hfree fun entries hentries => ?_
  simp only [layout, slots, List.forall_mem_cons]
  exact ⟨fun value _ _ => unorderedAt_text value, fun value hvalue _ => unorderedAt_texts hvalue,
    fun value _ _ => unorderedAt_optional (unorderedAt_text value),
    fun value _ hunder => unorderedAt_dictionary (henv entries hentries value hunder),
    fun value _ _ => unorderedAt_text value,
    fun value _ _ => unorderedAt_optional (unorderedAt_size value),
    fun value _ _ => unorderedAt_optional (unorderedAt_variant _ value),
    fun value hvalue _ => unorderedAt_sweep hvalue,
    fun value _ _ => unorderedAt_optional (unorderedAt_size value),
    fun value hvalue _ => unorderedAt_items hvalue fun item hitem => unorderedAt_metric hitem,
    fun value hvalue _ => unorderedAt_optional (unorderedAt_build hvalue), by simp⟩

end Orders

/-! ### Texts -/

/-- A text stands for the configuration of its tree. -/
lemma ofText_eq_ok_iff {text : String} {node : Node} {config : Config}
    (hroot : (Document.ofText text).root = some node)
    (hwhole : (Document.ofText text).fault = none) (hfree : node.AliasFree) :
    ofText text = .ok config ↔ Form.Record shapes Written node config := by
  have hread : decoder.ofText text = decoder (Document.ofText text) [] node := by
    unfold Decoder.ofText
    simp only [hroot, hwhole, Option.getD_some]
    exact bind_pure _
  unfold ofText
  rw [hread, ← reads_config (Document.ofText text) [] node hfree]
  cases decoder (Document.ofText text) [] node <;> simp [Except.mapError]

/-- **A configuration means the same in any order of keys.**  A mapping without aliases stands for a
configuration if it fits: in each record in it, every key names a field, none of them twice and no
required one being left out, over a value of the field's type.  The configuration has in each field
what stands under its name or, whatever the other fields are, the default.  Where no name of the
environment is repeated, it stays the same when entries of mappings change places, at any depth. -/
theorem ofText_unordered {text : String} {entries : List (Node × Node)} {tag : Option Bytes}
    (hroot : (Document.ofText text).root = some (.mapping entries tag))
    (hwhole : (Document.ofText text).fault = none)
    (hfree : (Node.mapping entries tag).AliasFree) :
    (∀ config, ofText text = .ok config ↔ Fits shapes entries ∧ Written entries config) ∧
    ((∃ config, ofText text = .ok config) ↔ Fits shapes entries) ∧
    ((∀ words, Under entries "env" words → ∀ listed, words.HasEntries listed →
        (names listed).Nodup) →
      ∀ text' root', (Document.ofText text').root = some root' →
        (Document.ofText text').fault = none → (Node.mapping entries tag).Reordered root' →
        ∀ config, ofText text = .ok config ↔ ofText text' = .ok config) := by
  have hread : ∀ config,
      ofText text = .ok config ↔ Fits shapes entries ∧ Written entries config := by
    intro config
    rw [ofText_eq_ok_iff hroot hwhole hfree]
    simp [Form.Record]
  refine ⟨hread, ?_, ?_⟩
  · calc (∃ config, ofText text = .ok config)
        ↔ (Form.Record shapes Written).Has (.mapping entries tag) :=
          exists_congr fun config => ofText_eq_ok_iff hroot hwhole hfree
      _ ↔ Node.IsRecord shapes (.mapping entries tag) := (layout.isRecord_iff hfree).symm
      _ ↔ Fits shapes entries := by simp [Node.IsRecord]
  · intro henv text' root' hroot' hwhole' hreordered config
    rw [ofText_eq_ok_iff hroot hwhole hfree,
      ofText_eq_ok_iff hroot' hwhole' (hreordered.aliasFree hfree)]
    refine unorderedAt_config hfree (fun listed hlisted => ?_) root' hreordered config
    rwa [hasEntries_mapping_iff.1 hlisted]

/-- A configuration, its sweep and its environment with their keys in the opposite order. -/
theorem ofText_unordered_reversed :
    let word (text : String) : Node := .scalar text .plain none
    let sweep := [(word "base", word "1"), (word "steps", word "2")]
    let env := [(word "A", word "x"), (word "B", word "y")]
    let entries := [(word "program", word "app"), (word "sweep", .mapping sweep none),
      (word "env", .mapping env none)]
    let text := "program: app\nsweep: {base: 1, steps: 2}\nenv: {A: x, B: y}\n"
    let text' := "env: {B: y, A: x}\nsweep: {steps: 2, base: 1}\nprogram: app\n"
    ∃ config, ofText text = .ok config ∧ ofText text' = .ok config ∧
      Fits shapes entries ∧ Written entries config := by
  intro word sweep env entries text text'
  let entries' := [(word "env", Node.mapping env.reverse none),
    (word "sweep", .mapping sweep.reverse none), (word "program", word "app")]
  let event (text : String) : Event := .scalar text .plain none none
  have hevents : events text = ([.openMapping none none, event "program", event "app",
      event "sweep", .openMapping none none, event "base", event "1", event "steps", event "2",
      .close, event "env", .openMapping none none, event "A", event "x", event "B", event "y",
      .close, .close], none) := by decide +kernel
  have hevents' : events text' = ([.openMapping none none, event "env", .openMapping none none,
      event "B", event "y", event "A", event "x", .close, event "sweep", .openMapping none none,
      event "steps", event "2", event "base", event "1", .close, event "program", event "app",
      .close], none) := by decide +kernel
  have hroot : (Document.ofText text).root = some (.mapping entries none) := by
    unfold Document.ofText
    rw [hevents]
    rfl
  have hroot' : (Document.ofText text').root = some (.mapping entries' none) := by
    unfold Document.ofText
    rw [hevents']
    rfl
  have hfree : (Node.mapping entries none).AliasFree := by simp [entries, sweep, env, word]
  have henv : ∀ words, Under entries "env" words → ∀ listed, words.HasEntries listed →
      (names listed).Nodup := by
    intro words hwords listed hlisted
    obtain rfl : words = .mapping env none := by
      simpa [under_cons_iff, not_under_nil, Node.name?, entries, word, eq_comm] using hwords
    obtain rfl := hasEntries_mapping_iff.1 hlisted
    decide
  have hreordered : (Node.mapping entries none).Reordered (.mapping entries' none) := by
    refine .mapping none entries.reverse_perm.symm rfl ?_
    simp only [entries, entries', List.reverse_cons, List.reverse_nil, List.nil_append,
      List.cons_append, List.zip_cons_cons, List.zip_nil_left, List.forall_mem_cons]
    exact ⟨.of_perm env.reverse_perm.symm none, .of_perm sweep.reverse_perm.symm none, .refl _,
      by simp⟩
  obtain ⟨hread, hfits, hsame⟩ := ofText_unordered hroot (by decide +kernel) hfree
  obtain ⟨config, hconfig⟩ : ∃ config, ofText text = .ok config := by
    have hok : (ofText text).toOption.isSome = true := by decide +kernel
    cases hresult : ofText text with
    | error fault =>
      rw [hresult] at hok
      cases hok
    | ok config => exact ⟨config, rfl⟩
  have hwritten := (hread config).1 hconfig
  have hconfig' := (hsame henv text' _ hroot' (by decide +kernel) hreordered config).1 hconfig
  exact ⟨config, hconfig, hconfig', hwritten⟩

end SizeSweep.Config
