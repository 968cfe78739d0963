import SizeSweep.Proofs.Chart.Recorded

/-!
Plots that are refused.  The series are read in order up to the first that repeats a label or whose
file is no table; only if all are read does it count whether the baseline is one of them, then
whether the styles can be read, and last whether the series share a size.  A refused plot leaves the
tree as it was.  One that is not refused can fail only where a directory or a file cannot be written
or a chart cannot be drawn.  A plot that ends well has written two charts for each column that all
its series have.
-/

namespace SizeSweep.Plot

open Files (home)

/-! ### What is asked of a plot -/

/-- Each series has a label of its own, and its file is read as a table: these are the datasets. -/
structure Loads (files : Files) (series : List Series) (datasets : List Dataset) : Prop where
  labels : (series.map Series.label).Nodup
  tables : List.Forall₂ (fun s d => d.label = s.label ∧
    Table.ofFile (files.read home s.path) = .ok d.table) series datasets

/-- Why a series cannot be read behind others.  A label that repeats one of theirs counts before the
file is opened. -/
inductive SeriesFault (files : Files) (before : List Series) (s : Series) : Fault → Prop
  | repeated (h : s.label ∈ before.map Series.label) :
      SeriesFault files before s (.duplicateLabel s.label)
  | unreadable {fault : Table.Fault} (hnew : s.label ∉ before.map Series.label)
      (h : Table.ofFile (files.read home s.path) = .error fault) :
      SeriesFault files before s (.read s.label fault)

/-- The fault of the first of some series that cannot be read behind others. -/
def FirstFault (files : Files) (before series : List Series) (fault : Fault) : Prop :=
  ∃ passed s after, series = passed ++ s :: after ∧
    (∃ datasets, Loads files (before ++ passed) datasets) ∧
    SeriesFault files (before ++ passed) s fault

/-- The fault of a style file, if one is given that cannot be read. -/
def StylesFault (files : Files) (styles : Option String) (fault : Fault) : Prop :=
  ∃ path, styles = some path ∧ stylesOf (files.readText home path) = .error fault

/-- A size that all datasets record. -/
def Shared (datasets : List Dataset) (size : UInt64) : Prop := ∀ d ∈ datasets, size ∈ d.table.sizes

/-- Why a plot is refused, each reason counting before those below it. -/
inductive Refused (files : Files) (arguments : Arguments) : Fault → Prop
  | series {fault : Fault} (h : FirstFault files [] arguments.series fault) :
      Refused files arguments fault
  | baseline {datasets : List Dataset} (hloads : Loads files arguments.series datasets)
      (h : arguments.baseline ∉ arguments.series.map Series.label) :
      Refused files arguments (.unknownBaseline arguments.baseline)
  | styles {datasets : List Dataset} {fault : Fault}
      (hloads : Loads files arguments.series datasets)
      (hbaseline : arguments.baseline ∈ arguments.series.map Series.label)
      (h : StylesFault files arguments.styles fault) : Refused files arguments fault
  | sizes {datasets : List Dataset} (hloads : Loads files arguments.series datasets)
      (hbaseline : arguments.baseline ∈ arguments.series.map Series.label)
      (hstyles : ∀ fault, ¬StylesFault files arguments.styles fault)
      (h : ∀ size, ¬Shared datasets size) : Refused files arguments .noSharedSizes

/-- The fault of the first of some charts that cannot be drawn. -/
def Undrawn (draw : Chart → Except String Bytes) (charts : List Chart) (fault : Fault) : Prop :=
  ∃ before chart after message, charts = before ++ chart :: after ∧
    (∀ drawn ∈ before, ∃ svg, draw drawn = .ok svg) ∧ draw chart = .error message ∧
    fault = .render chart.name message

/-! ### Reading series -/

section Series

variable {files : Files} {before rest series : List Series} {s : Series}
  {loaded datasets : List Dataset} {table : Table} {fault fault' : Fault}

lemma loads_nil (files : Files) : Loads files [] [] := ⟨List.nodup_nil, .nil⟩

lemma Loads.map_label (h : Loads files series datasets) :
    datasets.map Dataset.label = series.map Series.label := by
  rw [← List.forall₂_eq_eq_eq, List.forall₂_map_left_iff, List.forall₂_map_right_iff]
  exact h.tables.flip.imp fun _ _ hboth => hboth.1

lemma Loads.unique {datasets' : List Dataset} (h : Loads files series datasets)
    (h' : Loads files series datasets') : datasets = datasets' := by
  refine List.right_unique_forall₂' ?_ h.tables h'.tables
  rintro s ⟨label, table⟩ ⟨label', table'⟩ ⟨hlabel, htable⟩ ⟨hlabel', htable'⟩
  rw [htable, Except.ok.injEq] at htable'
  rw [Dataset.mk.injEq]
  exact ⟨hlabel.trans hlabel'.symm, htable'⟩

lemma Loads.any_label (h : Loads files before loaded) (s : Series) :
    loaded.any (·.label = s.label) = true ↔ s.label ∈ before.map Series.label := by
  rw [← h.map_label]
  simp

lemma Loads.concat (h : Loads files before loaded) (hnew : s.label ∉ before.map Series.label)
    (htable : Table.ofFile (files.read home s.path) = .ok table) :
    Loads files (before ++ [s]) (loaded ++ [⟨s.label, table⟩]) where
  labels := by
    rw [List.map_append, List.map_singleton, List.nodup_append']
    exact ⟨h.labels, List.nodup_singleton _, by simpa using hnew⟩
  tables := List.rel_append h.tables (.cons ⟨rfl, htable⟩ .nil)

/-- A series that cannot be read is not among those that are. -/
lemma SeriesFault.not_loads (h : SeriesFault files before s fault) (rest : List Series)
    (datasets : List Dataset) : ¬Loads files (before ++ s :: rest) datasets := by
  intro hloads
  cases h with
  | repeated hlabel =>
    have hnodup := hloads.labels
    rw [List.map_append, List.nodup_append'] at hnodup
    exact hnodup.2.2 hlabel (by simp)
  | unreadable _ hfault =>
    obtain ⟨_, _, -, -, htables⟩ := Table.forall₂_append_left hloads.tables
    obtain ⟨_, _, ⟨-, htable⟩, -⟩ := List.forall₂_cons_left_iff.1 htables
    rw [hfault] at htable
    cases htable

lemma SeriesFault.unique (h : SeriesFault files before s fault)
    (h' : SeriesFault files before s fault') : fault = fault' := by
  cases h with
  | repeated hlabel =>
    cases h' with
    | repeated => rfl
    | unreadable hnew => exact absurd hlabel hnew
  | unreadable hnew hfault =>
    cases h' with
    | repeated hlabel => exact absurd hlabel hnew
    | unreadable _ hfault' =>
      rw [hfault, Except.error.injEq] at hfault'
      rw [hfault']

lemma not_firstFault_nil : ¬FirstFault files before [] fault := by
  rintro ⟨passed, s, after, hnil, -⟩
  simp at hnil

/-- If the head cannot be read, its fault is the first. -/
lemma firstFault_of_fault (hloads : Loads files before loaded)
    (h : SeriesFault files before s fault') :
    FirstFault files before (s :: rest) fault ↔ fault' = fault := by
  constructor
  · rintro ⟨passed, t, after, hsplit, ⟨datasets, hpassed⟩, hfault⟩
    rcases passed with _ | ⟨head, passed⟩
    · obtain ⟨rfl, rfl⟩ := List.cons.inj hsplit
      rw [List.append_nil] at hfault
      exact h.unique hfault
    · obtain ⟨rfl, -⟩ := List.cons.inj hsplit
      exact absurd hpassed (h.not_loads passed datasets)
  · rintro rfl
    refine ⟨[], s, rest, rfl, ⟨loaded, ?_⟩, ?_⟩
    · rwa [List.append_nil]
    · rwa [List.append_nil]

/-- If the head is read, the first fault is that of the tail. -/
lemma firstFault_of_loads (hloads : Loads files (before ++ [s]) datasets) :
    FirstFault files before (s :: rest) fault ↔ FirstFault files (before ++ [s]) rest fault := by
  have hassoc : ∀ passed, before ++ s :: passed = before ++ [s] ++ passed := by simp
  constructor
  · rintro ⟨passed, t, after, hsplit, hpassed, hfault⟩
    rcases passed with _ | ⟨head, passed⟩
    · obtain ⟨rfl, rfl⟩ := List.cons.inj hsplit
      rw [List.append_nil] at hfault
      exact absurd hloads (hfault.not_loads [] datasets)
    · obtain ⟨rfl, rfl⟩ := List.cons.inj hsplit
      rw [hassoc] at hpassed hfault
      exact ⟨passed, t, after, rfl, hpassed, hfault⟩
  · rintro ⟨passed, t, after, rfl, hpassed, hfault⟩
    rw [← hassoc] at hpassed hfault
    exact ⟨s :: passed, t, after, rfl, hpassed, hfault⟩

/-! ### Loading -/

lemma fault_or_table (files : Files) (before : List Series) (s : Series) :
    (∃ fault, SeriesFault files before s fault) ∨ s.label ∉ before.map Series.label ∧
      ∃ table, Table.ofFile (files.read home s.path) = .ok table := by
  by_cases hlabel : s.label ∈ before.map Series.label
  · exact Or.inl ⟨_, .repeated hlabel⟩
  · rcases htable : Table.ofFile (files.read home s.path) with fault | table
    · exact Or.inl ⟨_, .unreadable hlabel htable⟩
    · exact Or.inr ⟨hlabel, table, rfl⟩

lemma loadAfter_of_fault (hloads : Loads files before loaded)
    (h : SeriesFault files before s fault) :
    loadAfter files loaded (s :: rest) = .error fault := by
  rw [loadAfter]
  cases h with
  | repeated hlabel => rw [if_pos ((hloads.any_label s).2 hlabel)]
  | unreadable hnew hfault => rw [if_neg (mt (hloads.any_label s).1 hnew), hfault]

lemma loadAfter_of_table (hloads : Loads files before loaded)
    (hnew : s.label ∉ before.map Series.label)
    (htable : Table.ofFile (files.read home s.path) = .ok table) :
    loadAfter files loaded (s :: rest) = loadAfter files (loaded ++ [⟨s.label, table⟩]) rest := by
  rw [loadAfter, if_neg (mt (hloads.any_label s).1 hnew), htable]

lemma loadAfter_eq_ok_iff (h : Loads files before loaded) :
    loadAfter files loaded series = .ok datasets ↔ Loads files (before ++ series) datasets := by
  induction series generalizing before loaded with
  | nil =>
    rw [loadAfter, List.append_nil, Except.ok.injEq]
    exact ⟨fun heq => heq ▸ h, h.unique⟩
  | cons s rest ih =>
    rcases fault_or_table files before s with ⟨fault, hfault⟩ | ⟨hnew, table, htable⟩
    · rw [loadAfter_of_fault h hfault]
      exact iff_of_false (by simp) (hfault.not_loads rest datasets)
    · rw [loadAfter_of_table h hnew htable, ih (h.concat hnew htable), List.append_assoc,
        List.singleton_append]

lemma loadAfter_eq_error_iff (h : Loads files before loaded) :
    loadAfter files loaded series = .error fault ↔ FirstFault files before series fault := by
  induction series generalizing before loaded with
  | nil => exact iff_of_false (by simp [loadAfter]) not_firstFault_nil
  | cons s rest ih =>
    rcases fault_or_table files before s with ⟨fault', hfault⟩ | ⟨hnew, table, htable⟩
    · rw [loadAfter_of_fault h hfault, firstFault_of_fault h hfault, Except.error.injEq]
    · have hloads := h.concat hnew htable
      rw [loadAfter_of_table h hnew htable, firstFault_of_loads hloads, ih hloads]

lemma load_eq_ok_iff : load files series = .ok datasets ↔ Loads files series datasets :=
  loadAfter_eq_ok_iff (loads_nil files)

lemma load_eq_error_iff : load files series = .error fault ↔ FirstFault files [] series fault :=
  loadAfter_eq_error_iff (loads_nil files)

end Series

/-! ### Refusing -/

section Refusing

variable {files : Files} {arguments : Arguments} {datasets : List Dataset} {styles : Option String}
  {material : Material} {fault : Fault}

lemma Loads.find?_eq_none_iff {series : List Series} (h : Loads files series datasets)
    (label : String) :
    datasets.find? (·.label = label) = none ↔ label ∉ series.map Series.label := by
  rw [← h.map_label]
  simp

lemma sharedSizes_eq_nil_iff (hsome : datasets ≠ []) :
    Chart.sharedSizes datasets = [] ↔ ∀ size, ¬Shared datasets size := by
  rw [List.eq_nil_iff_forall_not_mem]
  exact forall_congr' fun size => not_congr (Chart.mem_sharedSizes hsome)

lemma exists_baseline (hloads : Loads files arguments.series datasets)
    (hbaseline : arguments.baseline ∈ arguments.series.map Series.label) :
    ∃ baseline, datasets.find? (·.label = arguments.baseline) = some baseline ∧
      baseline ∈ datasets := by
  have hfound := mt (hloads.find?_eq_none_iff arguments.baseline).1 (not_not.2 hbaseline)
  obtain ⟨baseline, hfind⟩ := Option.ne_none_iff_exists'.1 hfound
  exact ⟨baseline, hfind, List.mem_of_find?_eq_some hfind⟩

lemma Refused.gather_eq (h : Refused files arguments fault) :
    gather files arguments = .error fault := by
  unfold gather
  cases h with
  | series hfirst =>
    rw [load_eq_error_iff.2 hfirst]
    rfl
  | baseline hloads hbaseline =>
    have hfind := (hloads.find?_eq_none_iff arguments.baseline).2 hbaseline
    simp only [load_eq_ok_iff.2 hloads, hfind, bind, Except.bind]
  | styles hloads hbaseline hstyles =>
    obtain ⟨baseline, hfind, -⟩ := exists_baseline hloads hbaseline
    obtain ⟨path, hpath, hfault⟩ := hstyles
    simp only [load_eq_ok_iff.2 hloads, hfind, hpath, hfault, bind, Except.bind]
  | sizes hloads hbaseline hstyles hshared =>
    obtain ⟨baseline, hfind, hmem⟩ := exists_baseline hloads hbaseline
    have hnil := (sharedSizes_eq_nil_iff (List.ne_nil_of_mem hmem)).2 hshared
    rcases hpath : arguments.styles with _ | path
    · simp [load_eq_ok_iff.2 hloads, hfind, hnil, bind, Except.bind]
    · rcases hread : stylesOf (files.readText home path) with fault | styles
      · exact absurd ⟨path, hpath, hread⟩ (hstyles fault)
      · simp [load_eq_ok_iff.2 hloads, hfind, hread, hnil, bind, Except.bind]

/-- Everything is gathered, or the plot is refused. -/
lemma gathered_or_refused (files : Files) (arguments : Arguments) :
    (∃ material, gather files arguments = .ok material) ∨
      ∃ fault, Refused files arguments fault := by
  rcases hload : load files arguments.series with fault | datasets
  · exact Or.inr ⟨fault, .series (load_eq_error_iff.1 hload)⟩
  have hloads := load_eq_ok_iff.1 hload
  by_cases hbaseline : arguments.baseline ∈ arguments.series.map Series.label
  swap
  · exact Or.inr ⟨_, .baseline hloads hbaseline⟩
  by_cases hstyles : ∃ fault, StylesFault files arguments.styles fault
  · obtain ⟨fault, hfault⟩ := hstyles
    exact Or.inr ⟨fault, .styles hloads hbaseline hfault⟩
  rw [not_exists] at hstyles
  obtain ⟨baseline, hfind, hmem⟩ := exists_baseline hloads hbaseline
  by_cases hsizes : Chart.sharedSizes datasets = []
  · have hshared := (sharedSizes_eq_nil_iff (List.ne_nil_of_mem hmem)).1 hsizes
    exact Or.inr ⟨_, .sizes hloads hbaseline hstyles hshared⟩
  · left
    unfold gather
    rcases hpath : arguments.styles with _ | path
    · simp [hload, hfind, hsizes, bind, Except.bind]
    · rcases hread : stylesOf (files.readText home path) with fault | styles
      · exact absurd ⟨path, hpath, hread⟩ (hstyles fault)
      · simp [hload, hfind, hread, hsizes, bind, Except.bind]

lemma not_refused_of_gather (h : gather files arguments = .ok material) :
    ¬Refused files arguments fault := by
  intro hrefused
  rw [hrefused.gather_eq] at h
  cases h

/-- **A plot is refused** for one of the reasons, and only then. -/
theorem gather_eq_error_iff :
    gather files arguments = .error fault ↔ Refused files arguments fault := by
  refine ⟨fun h => ?_, Refused.gather_eq⟩
  rcases gathered_or_refused files arguments with ⟨material, hgather⟩ | ⟨fault', hrefused⟩
  · rw [hgather] at h
    cases h
  · rw [hrefused.gather_eq, Except.error.injEq] at h
    exact h ▸ hrefused

end Refusing

/-! ### Plotting -/

section Plotting

variable {draw : Chart → Except String Bytes} {out : String} {charts rest : List Chart}
  {chart : Chart} {files after : Files} {arguments : Arguments} {datasets : List Dataset}
  {fault : Fault}

lemma fault_of_writeChart (h : writeChart draw out files chart = .error fault) :
    (∃ os, fault = .io os) ∨ Undrawn draw (chart :: rest) fault := by
  unfold writeChart at h
  rcases hdraw : draw chart with message | svg
  · simp only [hdraw, Except.error.injEq] at h
    exact Or.inr ⟨[], chart, rest, message, rfl, by simp, hdraw, h.symm⟩
  · rcases hwrite : files.write home (chartPath out chart) svg with os | middle
    · simp only [hdraw, hwrite, Except.mapError, Except.error.injEq] at h
      exact Or.inl ⟨os, h.symm⟩
    · simp [hdraw, hwrite, Except.mapError] at h

lemma Undrawn.cons {svg : Bytes} (hdrawn : draw chart = .ok svg) (h : Undrawn draw rest fault) :
    Undrawn draw (chart :: rest) fault := by
  obtain ⟨before, first, after, message, rfl, hbefore, hfirst, rfl⟩ := h
  exact ⟨chart :: before, first, after, message, rfl,
    List.forall_mem_cons.2 ⟨⟨svg, hdrawn⟩, hbefore⟩, hfirst, rfl⟩

/-- Writing stops for faults of the operating system, and at a chart that cannot be drawn. -/
lemma fault_of_writeAll (h : writeAll draw out files charts = (.error fault, after)) :
    (∃ os, fault = .io os) ∨ Undrawn draw charts fault := by
  induction charts generalizing files with
  | nil => cases h
  | cons chart rest ih =>
    rw [writeAll] at h
    rcases hwrite : writeChart draw out files chart with fault' | middle
    · simp only [hwrite, Prod.mk.injEq, Except.error.injEq] at h
      exact h.1 ▸ fault_of_writeChart hwrite
    · obtain ⟨svg, hdrawn, -⟩ := writeChart_eq_ok_iff.1 hwrite
      rcases hrest : writeAll draw out middle rest with ⟨fault' | count, last⟩
      · simp only [hwrite, hrest, Except.map, Prod.mk.injEq, Except.error.injEq] at h
        obtain ⟨rfl, rfl⟩ := h
        exact (ih hrest).imp_right fun hundrawn => hundrawn.cons hdrawn
      · simp [hwrite, hrest, Except.map] at h

lemma length_charts (material : Material) :
    material.charts.length = 2 * (Chart.sharedColumns material.datasets).length := by
  unfold Material.charts Chart.both
  simp [List.length_flatMap, Nat.mul_comm]

lemma sharedColumns_cons (first : Dataset) (rest : List Dataset) :
    Chart.sharedColumns (first :: rest) = first.table.columns.filter
      fun column => ∀ d ∈ first :: rest, column ∈ d.table.columns := by
  unfold Chart.sharedColumns
  refine List.filter_congr fun column _ => ?_
  rw [Bool.eq_iff_iff, List.all_eq_true, decide_eq_true_eq]
  exact forall₂_congr fun d _ => Table.isSome_columnIndex?_iff

end Plotting

/-- **A refused plot leaves nothing behind, and a count is true.**  A plot that is refused reports
the reason that counts first and leaves the tree as it was; every other fault is one of the operating
system, or of the first chart that cannot be drawn.  If a plot counts its charts, then the labels
differ, the baseline is one of them, the series share a size, and the count is two for each column
of the first series that all of them have. -/
theorem plot_refused_or_counted (draw : List (String × String) → Chart → Except String Bytes)
    (arguments : Arguments) (files : Files) :
    (∀ fault, Refused files arguments fault →
      runWith draw arguments files = (.error fault, files)) ∧
    (∀ fault after, runWith draw arguments files = (.error fault, after) →
      Refused files arguments fault ∨
        (∀ other, ¬Refused files arguments other) ∧
          ((∃ os, fault = .io os) ∨ ∃ material, gather files arguments = .ok material ∧
            Undrawn (draw material.styles) material.charts fault)) ∧
    ∀ count after, runWith draw arguments files = (.ok count, after) →
      (arguments.series.map Series.label).Nodup ∧
      arguments.baseline ∈ arguments.series.map Series.label ∧
      ∃ first rest, Loads files arguments.series (first :: rest) ∧
        (∃ size, Shared (first :: rest) size) ∧
        count = 2 * (first.table.columns.filter fun column =>
          ∀ d ∈ first :: rest, column ∈ d.table.columns).length := by
  have hrefused : ∀ fault, Refused files arguments fault →
      runWith draw arguments files = (.error fault, files) := by
    intro fault h
    unfold runWith
    rw [h.gather_eq]
  refine ⟨hrefused, ?_, ?_⟩
  · intro fault after hrun
    rcases hgather : gather files arguments with fault' | material
    · have h := gather_eq_error_iff.1 hgather
      rw [hrefused fault' h, Prod.mk.injEq, Except.error.injEq] at hrun
      exact Or.inl (hrun.1 ▸ h)
    · -- behind the gathering only the directory and the charts can fail
      refine Or.inr ⟨fun other => not_refused_of_gather hgather, ?_⟩
      obtain ⟨middle, -, hend⟩ := runWith_cases draw hgather
      rw [hrun] at hend
      rcases hend with hwritten | ⟨os, hmade⟩
      · exact (fault_of_writeAll hwritten.symm).imp_right fun h => ⟨material, rfl, h⟩
      · rw [Prod.mk.injEq, Except.error.injEq] at hmade
        exact Or.inl ⟨os, hmade.1⟩
  · intro count after hrun
    rcases hgather : gather files arguments with fault | material
    · rw [hrefused fault (gather_eq_error_iff.1 hgather)] at hrun
      cases hrun
    · obtain ⟨hload, hfind, hsizes, hsome⟩ := gather_ok hgather
      have hloads := load_eq_ok_iff.1 hload
      have hmem := List.mem_of_find?_eq_some hfind
      obtain ⟨first, rest, hdatasets⟩ := List.exists_cons_of_ne_nil (List.ne_nil_of_mem hmem)
      obtain ⟨middle, -, hwritten⟩ := runWith_ok hgather hrun
      refine ⟨hloads.labels, ?_, first, rest, hdatasets ▸ hloads, ?_, ?_⟩
      · by_contra hbaseline
        rw [(hloads.find?_eq_none_iff arguments.baseline).2 hbaseline] at hfind
        cases hfind
      · by_contra hshared
        rw [not_exists, ← hdatasets, ← sharedSizes_eq_nil_iff (List.ne_nil_of_mem hmem)] at hshared
        exact hsome (hsizes.trans hshared)
      · rw [count_of_writeAll hwritten, length_charts, hdatasets, sharedColumns_cons]

lemma message_io_ne {os : OsFault} {chart message : String} :
    (Fault.io os).message ≠ (Fault.render chart message).message := by
  have hio : (Fault.io os).message.toList.head? = some 'I' := by
    unfold Fault.message
    simp only [String.toList_append]
    rfl
  have hrender : (Fault.render chart message).message.toList.head? = some 'f' := by
    unfold Fault.message
    simp only [String.toList_append, List.append_assoc]
    rfl
  intro h
  rw [h, hrender] at hio
  exact absurd hio (by decide)

/-- Of a label that is repeated, a file that is missing, a baseline that is unknown and styles that
cannot be read, the first is reported.  Where the directory for charts cannot be made or the second
chart cannot be drawn, the plot is not refused.  A plot of one column counts two charts. -/
theorem plot_refused_or_counted_repeated :
    let files := oneFile "size,ns\n8,2\n"
    let twice : Arguments := ⟨[⟨"a", "v1.csv"⟩, ⟨"a", "v2.csv"⟩], "b", "graphs", some "styles.yaml"⟩
    let blocked : Arguments := { oneSeries with out := "v1.csv" }
    let failing : List (String × String) → Chart → Except String Bytes := fun _ chart =>
      if chart.name = "ns" then .ok [] else .error "no colour"
    (Refused files twice (.duplicateLabel "a") ∧
      run twice files = (.error (.duplicateLabel "a"), files)) ∧
    (∃ fault after, run blocked files = (.error fault, after) ∧
      (∀ other, ¬Refused files blocked other) ∧ ∃ os, fault = .io os) ∧
    (∃ fault after, runWith failing oneSeries files = (.error fault, after) ∧
      fault.message = "failed to render ns_relative: no colour" ∧
      (∀ other, ¬Refused files oneSeries other) ∧ ∃ material,
        gather files oneSeries = .ok material ∧
        Undrawn (failing material.styles) material.charts fault) ∧
    ∃ after, run oneSeries files = (.ok 2, after) ∧
      ∃ first rest, Loads files oneSeries.series (first :: rest) ∧
        2 = 2 * (first.table.columns.filter fun column =>
          ∀ d ∈ first :: rest, column ∈ d.table.columns).length := by
  intro files twice blocked failing
  refine ⟨?_, ?_, ?_, ?_⟩
  · have hloads : Loads files [⟨"a", "v1.csv"⟩] [⟨"a", ⟨["ns"], [⟨8, [.ofNat 2]⟩]⟩⟩] :=
      ⟨by decide, .cons ⟨rfl, by decide +kernel⟩ .nil⟩
    have htwice : Refused files twice (.duplicateLabel "a") :=
      .series ⟨[⟨"a", "v1.csv"⟩], ⟨"a", "v2.csv"⟩, [], rfl, ⟨_, hloads⟩, .repeated (by decide)⟩
    exact ⟨htwice, (plot_refused_or_counted render twice files).1 _ htwice⟩
  · have hread : (gather files blocked).toOption.any (fun _ => true) = true := by decide +kernel
    have hstops : (run blocked files).1.toOption = none := by decide +kernel
    obtain ⟨material, hgather, -⟩ := exists_ok_of_any hread
    rcases hfailed : run blocked files with ⟨fault | count, after⟩
    · rcases (plot_refused_or_counted render blocked files).2.1 fault after hfailed with
        hrefused | ⟨hnone, hos | ⟨_, -, _, _, _, _, -, -, hundrawn, -⟩⟩
      · exact absurd hrefused (not_refused_of_gather hgather)
      · exact ⟨fault, after, rfl, hnone, hos⟩
      · cases hundrawn
    · rw [hfailed] at hstops
      cases hstops
  · have hread : (gather files oneSeries).toOption.any (fun _ => true) = true := by decide +kernel
    have hstops : (runWith failing oneSeries files).1.mapError Fault.message =
        .error "failed to render ns_relative: no colour" := by decide +kernel
    obtain ⟨material, hgather, -⟩ := exists_ok_of_any hread
    rcases hfailed : runWith failing oneSeries files with ⟨fault | count, after⟩
    · rw [hfailed] at hstops
      have hmessage : fault.message = (Fault.render "ns_relative" "no colour").message :=
        Except.error.inj hstops
      rcases (plot_refused_or_counted failing oneSeries files).2.1 fault after hfailed with
        hrefused | ⟨hnone, ⟨os, rfl⟩ | hundrawn⟩
      · exact absurd hrefused (not_refused_of_gather hgather)
      · exact absurd hmessage message_io_ne
      · exact ⟨fault, after, rfl, hmessage, hnone, hundrawn⟩
    · rw [hfailed] at hstops
      cases hstops
  · have hrun : run oneSeries files = (.ok 2, (run oneSeries files).2) :=
      run_eq_of_count (by decide +kernel)
    obtain ⟨-, -, first, rest, hfirst, -, hcount⟩ :=
      (plot_refused_or_counted render oneSeries files).2.2 2 _ hrun
    exact ⟨_, hrun, first, rest, hfirst, hcount⟩

end SizeSweep.Plot
